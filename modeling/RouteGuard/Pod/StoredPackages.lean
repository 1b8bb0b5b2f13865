import RouteGuard.Pod.Package

/-!
# Stored packages

A record is read back as it was built. The identifiers and the manifest hash of a record are bound to its ciphertext by
the authenticated text; the rest of the envelope is bound to it by the integrity hash, which anyone can compute.

* `Sealing` : an accepted package, and what was drawn at random for its record;
* `decryptStoredRecord_eq_ok` : when a record is decrypted, and to what;
* `context_inj` : the authenticated texts of accepted packages;
* `PodStorageEnvelope.restJson_inj` : what the integrity hash covers;
* `stored_packages_decrypt_to_what_was_submitted` : the records of accepted packages, and altered records.
-/

namespace RouteGuard.Pod
open JsString Json Guarded Separated

/-! ## Base64 -/

/-- `Buffer.from(value, "base64")`. -/
def buffer (value : JsString) : List UInt8 := AesGcm.ofNats (TextCodec.fromBase64 value)

/-- The texts that are decoded: those that hold a byte, and the empty one. -/
def IsBase64 (value : JsString) : Prop := ¬ (buffer value = [] ∧ value ≠ [])

theorem decodeBase64_eq_ok {value : JsString} {bytes : List UInt8} :
    decodeBase64 value = .ok bytes ↔ IsBase64 value ∧ bytes = buffer value := by
  rw [decodeBase64, check_eq_ok, require_eq_ok, pure_eq_ok, eq_comm (a := bytes)]
  rfl

theorem buffer_encodeBase64 (bytes : List UInt8) : buffer (encodeBase64 bytes) = bytes := fromBase64_encodeBase64 bytes

theorem isBase64_encodeBase64 (bytes : List UInt8) : IsBase64 (encodeBase64 bytes) := by
  rw [IsBase64, buffer_encodeBase64]
  rintro ⟨rfl, hne⟩
  exact hne rfl

/-! ## The authenticated texts -/

section Contexts
variable {aad aad' : PodAadBinding}

/-- The identifiers and the manifest hash of an accepted package. -/
structure PodAadBinding.Accepted (aad : PodAadBinding) : Prop where
  tenderId : isPackageId aad.tenderId
  podId : isPackageId aad.podId
  manifestHash : ∃ digest, aad.manifestHash = js "sha256:" ++ digest ∧ digest.all isLowerHex

theorem lt_of_isLowerHex {u : UInt16} (h : isLowerHex u) : u < 0x80 := by
  simp only [isLowerHex, Bool.or_eq_true, Bool.and_eq_true, decide_eq_true_eq, UInt16.le_iff_toNat_le] at h
  rw [UInt16.lt_iff_toNat_lt]
  rcases h with ⟨-, h⟩ | ⟨-, h⟩ <;> exact lt_of_le_of_lt h (by decide)

theorem lt_of_isAlphanumeric {u : UInt16} (h : isAlphanumeric u) : u < 0x80 := by
  simp only [isAlphanumeric, Bool.or_eq_true, Bool.and_eq_true, decide_eq_true_eq, UInt16.le_iff_toNat_le] at h
  rw [UInt16.lt_iff_toNat_lt]
  rcases h with (⟨-, h⟩ | ⟨-, h⟩) | ⟨-, h⟩ <;> exact lt_of_le_of_lt h (by decide)

theorem ascii_packageId {s : JsString} (h : isPackageId s) : s.all (· < 0x80) = true := by
  have hother : (js "._@:-").all (· < 0x80) = true := by decide
  rw [List.all_eq_true]
  intro u hu
  rw [decide_eq_true_eq]
  exact (mem_packageId h hu).elim lt_of_isAlphanumeric fun hu => of_decide_eq_true (List.all_eq_true.mp hother u hu)

theorem ascii_decimalInt (n : Int) : (decimalInt n).all (· < 0x80) = true := by
  rw [List.all_eq_true]
  intro u hu
  rw [decide_eq_true_eq]
  by_contra hge
  refine not_mem_decimalInt ?_ ?_ hu
  · rw [Bool.eq_false_iff, Ne, isDigit_iff]
    rw [UInt16.lt_iff_toNat_lt] at hge
    have hge : ¬ u.toNat < 0x80 := hge
    omega
  · rintro rfl
    exact hge (by decide)

theorem ascii_lowerHex {s : JsString} (h : s.all isLowerHex) : s.all (· < 0x80) = true := by
  rw [List.all_eq_true] at *
  exact fun u hu => decide_eq_true (lt_of_isLowerHex (h u hu))

theorem PodAadBinding.Accepted.ascii (h : aad.Accepted) : aad.context.all (· < 0x80) = true := by
  obtain ⟨digest, hhash, hdigest⟩ := h.manifestHash
  have hbar : (js "|").all (· < 0x80) = true := by decide
  have hlabel : (js "sha256:").all (· < 0x80) = true := by decide
  simp only [PodAadBinding.context, hhash, List.all_append, ascii_packageId h.tenderId, ascii_packageId h.podId,
    ascii_lowerHex hdigest, ascii_decimalInt, hbar, hlabel, Bool.and_self]

theorem PodAadBinding.Accepted.bar_not_mem_manifestHash (h : aad.Accepted) : 0x7C ∉ aad.manifestHash := by
  obtain ⟨digest, hhash, hdigest⟩ := h.manifestHash
  rw [hhash, List.mem_append, not_or]
  refine ⟨by decide, fun hmem => ?_⟩
  have hunit := List.all_eq_true.mp hdigest _ hmem
  revert hunit
  decide

/-- No other identifiers and manifest hash have the text of an accepted package. -/
theorem context_inj (h : aad'.Accepted) (heq : aad.context = aad'.context) : aad = aad' := by
  have hbar : js "|" = [0x7C] := by decide
  have hversion (n : Int) : 0x7C ∉ decimalInt n := not_mem_decimalInt (by decide) (by decide)
  have hcount {s : JsString} (hs : 0x7C ∉ s) : s.count 0x7C = 0 := List.count_eq_zero.mpr hs
  simp only [PodAadBinding.context, hbar, List.append_assoc, List.cons_append, List.nil_append] at heq
  have htail := hcount h.bar_not_mem_manifestHash
  obtain ⟨h1, heq⟩ := append_cons_inj_of_le (bar_not_mem h.tenderId) (by
    simp only [List.count_append, List.count_cons_self, hcount (hversion _), hcount (bar_not_mem h.podId), htail]
    omega) heq
  obtain ⟨h2, heq⟩ := (append_cons_inj (hversion _) (hversion _)).mp heq
  obtain ⟨h3, heq⟩ := append_cons_inj_of_le (bar_not_mem h.podId) (by
    simp only [List.count_append, List.count_cons_self, hcount (hversion _), htail]
    omega) heq
  obtain ⟨h4, h5⟩ := (append_cons_inj (hversion _) (hversion _)).mp heq
  have h2 := decimalInt_inj h2
  have h4 := decimalInt_inj h4
  cases aad with
  | mk k _ =>
    cases aad' with
    | mk k' _ =>
      cases k
      cases k'
      simp_all

theorem utf8Bytes_inj {s t : JsString} (ht : t.all (· < 0x80) = true) (h : utf8Bytes s = utf8Bytes t) : s = t := by
  have hnats := congrArg AesGcm.toNats h
  rw [utf8Bytes, utf8Bytes, AesGcm.toNats_ofNats (TextCodec.utf8_lt _), AesGcm.toNats_ofNats (TextCodec.utf8_lt _)] at hnats
  exact TextCodec.eq_of_utf8_ascii ht hnats

theorem PodAadBinding.Accepted.ascii_labelled (h : aad.Accepted) {label : JsString}
    (hlabel : label.all (· < 0x80) = true) : (label ++ aad.context).all (· < 0x80) = true := by
  rw [List.all_append, h.ascii, hlabel, Bool.and_self]

theorem wrapAadBytes_inj (h : aad'.Accepted) (heq : wrapAadBytes aad.context = wrapAadBytes aad'.context) :
    aad = aad' :=
  context_inj h (List.append_cancel_left (utf8Bytes_inj (h.ascii_labelled (by decide)) heq))

theorem buildAadBytes_inj (h : aad'.Accepted) (heq : buildAadBytes aad = buildAadBytes aad') : aad = aad' :=
  context_inj h (List.append_cancel_left (utf8Bytes_inj (h.ascii_labelled (by decide)) heq))

/-- The two authenticated texts differ in their first byte. -/
theorem wrapAadBytes_ne_buildAadBytes (context : JsString) (h : aad.Accepted) :
    wrapAadBytes context ≠ buildAadBytes aad := by
  intro heq
  have hhead := congrArg List.head? (utf8Bytes_inj (h.ascii_labelled (by decide)) heq)
  rw [List.head?_append_of_ne_nil _ (by decide), List.head?_append_of_ne_nil _ (by decide)] at hhead
  revert hhead
  decide

end Contexts

/-! ## What the integrity hash covers -/

theorem WrappedPodDataKey.distinct_toJson (k : WrappedPodDataKey) : Distinct k.toJson := by
  refine ⟨?_, trivial, trivial, trivial, trivial, trivial⟩
  show [js "wrapAlg", js "wrappedKeyB64", js "wrapIvB64", js "wrapTagB64"].Nodup
  decide

theorem WrappedPodDataKey.toJson_inj (a b : WrappedPodDataKey) (h : canonicalize a.toJson = canonicalize b.toJson) :
    a = b := by
  have hvalues := canonicalize_obj_values (by rfl) a.distinct_toJson b.distinct_toJson h
  simp only [List.map_cons, List.cons.injEq, canonicalize_str_inj] at hvalues
  cases a
  cases b
  simp_all

theorem PodPackageFields.toJson_inj (a b : PodPackageFields) (h : canonicalize a.toJson = canonicalize b.toJson) :
    a = b := by
  have hvalues := canonicalize_obj_values (by rfl) (distinct_fieldsJson a) (distinct_fieldsJson b) h
  simp only [List.map_cons, List.cons.injEq, canonicalize_str_inj, canonicalize_num_inj, canonicalize_bool_inj] at hvalues
  obtain ⟨h1, h2, h3, h4, h5, h6, h7, h8, h9, h10, h11, hcodes, h13, h14, -⟩ := hvalues
  have hcodes := canonicalize_arr_inj (f := .str) (fun _ => trivial) (fun _ _ => canonicalize_str_inj.mp) hcodes
  cases a
  cases b
  simp_all

theorem PodStorageEnvelope.distinct_restJson (e : PodStorageEnvelope) : Distinct e.restJson := by
  refine ⟨?_, trivial, trivial, trivial, trivial, trivial, trivial, trivial, trivial, trivial, trivial, trivial, trivial,
    e.wrappedKey.distinct_toJson, trivial, trivial, trivial, trivial, trivial, distinct_fieldsJson e.publicFields,
    e.publicManifest.distinct_toJson, trivial⟩
  show [js "schemaVersion", js "tenderId", js "tenderVersion", js "podId", js "podVersion", js "ciphertextRef",
    js "ciphertextHash", js "plaintextPackageHash", js "manifestHash", js "encryptionAlg", js "ivB64", js "authTagB64",
    js "wrappedKey", js "wrapAlg", js "aadHash", js "ciphertextBytes", js "plaintextBytes", js "createdAt",
    js "publicFields", js "publicManifest"].Nodup
  decide

/-- Every field but the hash itself. -/
theorem PodStorageEnvelope.restJson_inj {a b : PodStorageEnvelope} (h : canonicalize a.restJson = canonicalize b.restJson) :
    { a with integrityHash := b.integrityHash } = b := by
  have hvalues := canonicalize_obj_values (by rfl) a.distinct_restJson b.distinct_restJson h
  simp only [List.map_cons, List.cons.injEq, canonicalize_str_inj, canonicalize_num_inj, Nat.cast_inj] at hvalues
  obtain ⟨h1, h2, h3, h4, h5, h6, h7, h8, h9, h10, h11, h12, hwrapped, h14, h15, h16, h17, h18, hfields, hmanifest, -⟩ :=
    hvalues
  have hwrapped := WrappedPodDataKey.toJson_inj _ _ hwrapped
  have hfields := PodPackageFields.toJson_inj _ _ hfields
  have hmanifest := PodCanonicalManifest.toJson_inj _ _ hmanifest
  obtain ⟨k, _⟩ := a
  obtain ⟨k', _⟩ := b
  cases k
  cases k'
  simp_all

/-! ## Records -/

section Records
variable {p : Platform} {sha256Hex : List UInt8 → JsString} {protector : AesGcmMasterKeyProtector}
  {secrets : RecordSecrets} {input : RecordInput} {record : StoredPodRecord} {plaintext : List UInt8}

theorem assertEnvelopeIntegrity_eq_ok {envelope : PodStorageEnvelope} :
    assertEnvelopeIntegrity p envelope = .ok () ↔
      envelope.schemaVersion = POD_STORE_SCHEMA ∧ integrityOf p envelope = envelope.integrityHash := by
  rw [assertEnvelopeIntegrity, check_eq_ok, require_eq_ok, require_eq_ok]

theorem unwrapKey_eq_ok {wrapped : WrappedPodDataKey} {context : JsString} {key : List UInt8} :
    protector.unwrapKey wrapped context = .ok key ↔
      wrapped.wrapAlg = POD_WRAP_ALG ∧ IsBase64 wrapped.wrapIvB64 ∧ IsBase64 wrapped.wrapTagB64 ∧
        IsBase64 wrapped.wrappedKeyB64 ∧ key.length = POD_KEY_BYTES ∧
        AesGcm.decrypt protector.masterKey (buffer wrapped.wrapIvB64) (wrapAadBytes context) (buffer wrapped.wrapTagB64)
          (buffer wrapped.wrappedKeyB64) = some key := by
  simp only [AesGcmMasterKeyProtector.unwrapKey, bind_eq_ok, require_eq_ok, exists_const, decodeBase64_eq_ok]
  constructor
  · rintro ⟨halg, _, ⟨hiv, rfl⟩, _, ⟨htag, rfl⟩, _, ⟨hkey, rfl⟩, h⟩
    split at h
    · cases h
    · next found hfound =>
      rw [check_eq_ok, require_eq_ok, pure_eq_ok] at h
      obtain ⟨hlength, rfl⟩ := h
      exact ⟨halg, hiv, htag, hkey, hlength, hfound⟩
  · rintro ⟨halg, hiv, htag, hkey, hlength, hfound⟩
    refine ⟨halg, _, ⟨hiv, rfl⟩, _, ⟨htag, rfl⟩, _, ⟨hkey, rfl⟩, ?_⟩
    rw [hfound]
    exact check_eq_ok.mpr ⟨require_eq_ok.mpr hlength, rfl⟩

theorem decryptPodPayload_eq_ok {ciphertext iv authTag dataKey : List UInt8} {aad : PodAadBinding} :
    decryptPodPayload ciphertext iv authTag dataKey aad = .ok plaintext ↔
      AesGcm.decrypt dataKey iv (buildAadBytes aad) authTag ciphertext = some plaintext := by
  unfold decryptPodPayload
  split <;> simp_all

/-- When a record is decrypted, and to what. -/
theorem decryptStoredRecord_eq_ok :
    decryptStoredRecord p sha256Hex protector record = .ok plaintext ↔
      assertEnvelopeIntegrity p record.envelope = .ok () ∧ ∃ dataKey,
        protector.unwrapKey record.envelope.wrappedKey record.envelope.aad.context = .ok dataKey ∧
        IsBase64 record.ciphertextB64 ∧
        sha256Digest sha256Hex (buffer record.ciphertextB64) = record.envelope.ciphertextHash ∧
        IsBase64 record.envelope.ivB64 ∧ IsBase64 record.envelope.authTagB64 ∧
        AesGcm.decrypt dataKey (buffer record.envelope.ivB64) (buildAadBytes record.envelope.aad)
          (buffer record.envelope.authTagB64) (buffer record.ciphertextB64) = some plaintext := by
  simp only [decryptStoredRecord, bind_eq_ok, require_eq_ok, exists_const, decodeBase64_eq_ok, decryptPodPayload_eq_ok]
  constructor
  · rintro ⟨_, hsealed, dataKey, hkey, _, ⟨hct, rfl⟩, hhash, _, ⟨hiv, rfl⟩, _, ⟨htag, rfl⟩, h⟩
    exact ⟨hsealed, dataKey, hkey, hct, hhash, hiv, htag, h⟩
  · rintro ⟨hsealed, dataKey, hkey, hct, hhash, hiv, htag, h⟩
    exact ⟨(), hsealed, dataKey, hkey, _, ⟨hct, rfl⟩, hhash, _, ⟨hiv, rfl⟩, _, ⟨htag, rfl⟩, h⟩

/-- The ciphertext and the tag of an input. -/
def payloadOf (secrets : RecordSecrets) (input : RecordInput) : List UInt8 × List UInt8 :=
  AesGcm.encrypt secrets.dataKey secrets.iv (buildAadBytes input.aad) input.plaintext

/-- The wrapped key of an input, and its tag. -/
def wrappingOf (protector : AesGcmMasterKeyProtector) (secrets : RecordSecrets) (input : RecordInput) :
    List UInt8 × List UInt8 :=
  AesGcm.encrypt protector.masterKey secrets.wrapIv (wrapAadBytes input.aad.context) secrets.dataKey

/-- What is stored of an input. -/
structure IsRecord (p : Platform) (sha256Hex : List UInt8 → JsString) (protector : AesGcmMasterKeyProtector)
    (secrets : RecordSecrets) (input : RecordInput) (record : StoredPodRecord) : Prop where
  integrity : assertEnvelopeIntegrity p record.envelope = .ok ()
  aad : record.envelope.aad = input.aad
  packageHash : record.envelope.plaintextPackageHash = input.packageContentHash
  wrappedKey : record.envelope.wrappedKey =
    ⟨POD_WRAP_ALG, encodeBase64 (wrappingOf protector secrets input).1, encodeBase64 secrets.wrapIv,
      encodeBase64 (wrappingOf protector secrets input).2⟩
  ciphertext : record.ciphertextB64 = encodeBase64 (payloadOf secrets input).1
  ciphertextHash : record.envelope.ciphertextHash = sha256Digest sha256Hex (payloadOf secrets input).1
  iv : record.envelope.ivB64 = encodeBase64 secrets.iv
  authTag : record.envelope.authTagB64 = encodeBase64 (payloadOf secrets input).2

theorem wrapKey_eq {iv dataKey : List UInt8} (h : dataKey.length = POD_KEY_BYTES) (context : JsString) :
    protector.wrapKey iv dataKey context =
      .ok ⟨POD_WRAP_ALG, encodeBase64 (AesGcm.encrypt protector.masterKey iv (wrapAadBytes context) dataKey).1,
        encodeBase64 iv, encodeBase64 (AesGcm.encrypt protector.masterKey iv (wrapAadBytes context) dataKey).2⟩ := by
  rw [AesGcmMasterKeyProtector.wrapKey, check_eq_ok, require_eq_ok]
  exact ⟨h, rfl⟩

theorem encryptPodPayload_eq {dataKey iv : List UInt8} (hkey : dataKey.length = POD_KEY_BYTES)
    (hiv : iv.length = POD_IV_BYTES) (aad : PodAadBinding) :
    encryptPodPayload sha256Hex dataKey iv plaintext aad =
      .ok ⟨(AesGcm.encrypt dataKey iv (buildAadBytes aad) plaintext).1, iv,
        (AesGcm.encrypt dataKey iv (buildAadBytes aad) plaintext).2, dataKey,
        sha256Digest sha256Hex (AesGcm.encrypt dataKey iv (buildAadBytes aad) plaintext).1,
        sha256Digest sha256Hex (buildAadBytes aad), buildAadBytes aad⟩ := by
  rw [encryptPodPayload, check_eq_ok, require_eq_ok, check_eq_ok, require_eq_ok]
  exact ⟨hkey, hiv, rfl⟩

/-- Every input is stored. -/
theorem exists_record (p : Platform) (sha256Hex : List UInt8 → JsString) (protector : AesGcmMasterKeyProtector)
    (secrets : RecordSecrets) (input : RecordInput) :
    ∃ record, encryptAndBuildRecord p sha256Hex protector secrets input = .ok record ∧
      IsRecord p sha256Hex protector secrets input record := by
  refine ⟨_, bind_eq_ok.mpr ⟨_, encryptPodPayload_eq secrets.length_dataKey secrets.length_iv _,
    bind_eq_ok.mpr ⟨_, wrapKey_eq secrets.length_dataKey _, rfl⟩⟩, ?_⟩
  exact ⟨assertEnvelopeIntegrity_eq_ok.mpr ⟨rfl, rfl⟩, rfl, rfl, rfl, rfl, rfl, rfl, rfl⟩

theorem IsRecord.unwrapKey (h : IsRecord p sha256Hex protector secrets input record) :
    protector.unwrapKey record.envelope.wrappedKey record.envelope.aad.context = .ok secrets.dataKey := by
  have hiv : secrets.wrapIv ≠ [] := List.ne_nil_of_length_pos (by rw [secrets.length_wrapIv]; decide)
  rw [h.wrappedKey, h.aad, unwrapKey_eq_ok, buffer_encodeBase64, buffer_encodeBase64, buffer_encodeBase64]
  exact ⟨rfl, isBase64_encodeBase64 _, isBase64_encodeBase64 _, isBase64_encodeBase64 _, secrets.length_dataKey,
    AesGcm.decrypt_encrypt protector.length_masterKey hiv _ _⟩

/-- A record is read back as it was built. -/
theorem IsRecord.decrypt (h : IsRecord p sha256Hex protector secrets input record) :
    decryptStoredRecord p sha256Hex protector record = .ok input.plaintext := by
  have hiv : secrets.iv ≠ [] := List.ne_nil_of_length_pos (by rw [secrets.length_iv]; decide)
  rw [decryptStoredRecord_eq_ok]
  refine ⟨h.integrity, secrets.dataKey, h.unwrapKey, ?_⟩
  rw [h.ciphertextHash, h.iv, h.aad, h.authTag, h.ciphertext, buffer_encodeBase64, buffer_encodeBase64,
    buffer_encodeBase64]
  exact ⟨isBase64_encodeBase64 _, rfl, isBase64_encodeBase64 _, isBase64_encodeBase64 _,
    AesGcm.decrypt_encrypt secrets.length_dataKey hiv _ _⟩

theorem not_ok_iff {ε α : Type} {x : Except ε α} : (∀ a, x ≠ .ok a) ↔ ∃ e, x = .error e := by
  cases x <;> simp

/-- A record with another envelope, but the integrity hash it had. -/
theorem refused_of_integrity {altered : StoredPodRecord} (h : assertEnvelopeIntegrity p record.envelope = .ok ())
    (hne : altered.envelope ≠ record.envelope)
    (hkept : altered.envelope.integrityHash = record.envelope.integrityHash ∨
      { altered.envelope with integrityHash := record.envelope.integrityHash } = record.envelope)
    (hsep : p.Separates altered.envelope.restJson record.envelope.restJson) :
    ∃ e, decryptStoredRecord p sha256Hex protector altered = .error e := by
  rw [← not_ok_iff]
  intro plaintext hok
  have hsealed := (assertEnvelopeIntegrity_eq_ok.mp h).2
  have haltered := (assertEnvelopeIntegrity_eq_ok.mp (decryptStoredRecord_eq_ok.mp hok).1).2
  rcases hkept with hkept | hrest
  · rw [hkept, ← hsealed] at haltered
    have heq := PodStorageEnvelope.restJson_inj (hsep.eq_of_canonicalSha256 haltered)
    rw [← hkept] at heq
    exact hne heq
  · have hsame : integrityOf p altered.envelope = integrityOf p record.envelope := by
      rw [← hrest]
      rfl
    rw [hsame, hsealed] at haltered
    rw [haltered] at hrest
    exact hne hrest

/-- Other bytes under the ciphertext hash of a record. -/
theorem refused_of_ciphertext {altered : StoredPodRecord} (h : IsRecord p sha256Hex protector secrets input record)
    (hhash : altered.envelope.ciphertextHash = record.envelope.ciphertextHash)
    (hne : buffer altered.ciphertextB64 ≠ buffer record.ciphertextB64)
    (hsep : sha256Hex (buffer altered.ciphertextB64) = sha256Hex (buffer record.ciphertextB64) →
      buffer altered.ciphertextB64 = buffer record.ciphertextB64) :
    ∃ e, decryptStoredRecord p sha256Hex protector altered = .error e := by
  rw [← not_ok_iff]
  intro plaintext hok
  obtain ⟨-, -, -, -, hdigest, -⟩ := decryptStoredRecord_eq_ok.mp hok
  obtain ⟨-, -, -, -, hstored, -⟩ := decryptStoredRecord_eq_ok.mp h.decrypt
  rw [hhash, ← hstored] at hdigest
  exact hne (hsep (List.append_cancel_left hdigest))

/-! ### Alterations that are not found -/

/-- The integrity hash of an altered envelope can be computed again. -/
theorem decrypt_resealed (h : decryptStoredRecord p sha256Hex protector record = .ok plaintext) (createdAt : JsString) :
    decryptStoredRecord p sha256Hex protector
      { record with envelope := sealEnvelope p { record.envelope with createdAt } } = .ok plaintext := by
  rw [decryptStoredRecord_eq_ok] at *
  exact ⟨assertEnvelopeIntegrity_eq_ok.mpr ⟨(assertEnvelopeIntegrity_eq_ok.mp h.1).1, rfl⟩, h.2⟩

/-- A newline at the end of a base64 text is skipped. -/
theorem buffer_newline (value : JsString) : buffer (value ++ [0x0A]) = buffer value := by
  have hnewline : TextCodec.base64Value 0x0A = none := by decide
  rw [buffer, buffer, TextCodec.fromBase64, TextCodec.fromBase64, List.takeWhile_append]
  split
  · next h =>
    rw [List.filterMap_append, (List.takeWhile_prefix _).eq_of_length h]
    simp [hnewline]
  · rfl

theorem decrypt_newline (h : decryptStoredRecord p sha256Hex protector record = .ok plaintext)
    (hne : buffer record.ciphertextB64 ≠ []) :
    decryptStoredRecord p sha256Hex protector { record with ciphertextB64 := record.ciphertextB64 ++ [0x0A] } =
      .ok plaintext := by
  rw [decryptStoredRecord_eq_ok] at *
  obtain ⟨hsealed, dataKey, hkey, -, hrest⟩ := h
  refine ⟨hsealed, dataKey, hkey, ?_, ?_⟩
  · rw [IsBase64, buffer_newline]
    exact fun hempty => hne hempty.1
  · rw [buffer_newline]
    exact hrest

end Records

/-! ## Accepted packages -/

/-- A package that was accepted, and what was drawn at random for its record. -/
structure Sealing (p : Platform) (sha256Hex : List UInt8 → JsString) (policy : PodFilePolicy)
    (scanner : Option PodContentScanner) where
  fields : PodPackageFields
  files : List PodFileInput
  carrierSignature : JsString
  manifest : PodCanonicalManifest
  secrets : RecordSecrets
  accepted : assertPackageFields fields = .ok ()
  built : buildCanonicalManifest sha256Hex policy scanner files = .ok manifest

namespace Sealing
variable {p : Platform} {sha256Hex : List UInt8 → JsString} {policy : PodFilePolicy}
  {scanner : Option PodContentScanner} (s : Sealing p sha256Hex policy scanner)

def package : PodPlaintextPackage where
  fields := s.fields
  files := s.files
  carrierSignature := s.carrierSignature
  manifestHash := manifestHash p s.manifest
  packageContentHash := packageContentHash p s.fields s.manifest

/-- What `submitPod` gives to `encryptAndBuildRecord`. -/
def input : RecordInput where
  plaintext := encodePlaintextPackage s.package
  fields := s.fields
  manifest := s.manifest
  manifestHash := manifestHash p s.manifest
  packageContentHash := packageContentHash p s.fields s.manifest
  createdAt := s.fields.submittedAt

/-- The data key under the master key, and the package under the data key. -/
def encryptions (protector : AesGcmMasterKeyProtector) : List AesGcm.Encryption :=
  [⟨protector.masterKey, s.secrets.wrapIv, wrapAadBytes s.input.aad.context, s.secrets.dataKey⟩,
   ⟨s.secrets.dataKey, s.secrets.iv, buildAadBytes s.input.aad, s.input.plaintext⟩]

theorem payload_ne_nil : (payloadOf s.secrets s.input).1 ≠ [] := by
  intro hnil
  have hlength : s.input.plaintext.length = 0 := by
    rw [← AesGcm.length_crypt s.secrets.dataKey s.secrets.iv]
    exact congrArg List.length hnil
  have htext : TextCodec.toText (AesGcm.toNats s.input.plaintext) = canonicalize (.obj s.package.body) := toText_utf8Bytes
  have hempty : TextCodec.toText (AesGcm.toNats []) = [] := rfl
  rw [List.length_eq_zero_iff.mp hlength, hempty, canonicalize] at htext
  obtain ⟨hopening, -⟩ := List.append_eq_nil_iff.mp (List.append_eq_nil_iff.mp htext.symm).1
  revert hopening
  decide

theorem accepted_aad (hp : p.HexDigest) : s.input.aad.Accepted := by
  have haccepted := s.accepted
  simp only [assertPackageFields, check_eq_ok, each_eq_ok, require_eq_ok, List.forall_mem_cons] at haccepted
  obtain ⟨⟨hpod, htender, -⟩, -⟩ := haccepted
  exact ⟨htender, hpod, _, rfl, (hp _).2⟩

end Sealing

section Authentic
variable {p : Platform} {sha256Hex : List UInt8 → JsString} {policy : PodFilePolicy}
  {scanner : Option PodContentScanner} {protector : AesGcmMasterKeyProtector}
  {stored : List (Sealing p sha256Hex policy scanner)} {record : StoredPodRecord} {plaintext : List UInt8}

def encryptionLog (protector : AesGcmMasterKeyProtector) (stored : List (Sealing p sha256Hex policy scanner)) :
    List AesGcm.Encryption := stored.flatMap fun s => s.encryptions protector

/-- Neither the wrapped key of the record nor its ciphertext is forged. -/
structure Authentic (log : List AesGcm.Encryption) (protector : AesGcmMasterKeyProtector) (record : StoredPodRecord) :
    Prop where
  wrapping : AesGcm.Unforged log protector.masterKey (buffer record.envelope.wrappedKey.wrapIvB64)
    (wrapAadBytes record.envelope.aad.context) (buffer record.envelope.wrappedKey.wrapTagB64)
    (buffer record.envelope.wrappedKey.wrappedKeyB64)
  payload : ∀ dataKey, protector.unwrapKey record.envelope.wrappedKey record.envelope.aad.context = .ok dataKey →
    AesGcm.Unforged log dataKey (buffer record.envelope.ivB64) (buildAadBytes record.envelope.aad)
      (buffer record.envelope.authTagB64) (buffer record.ciphertextB64)

theorem mem_encryptionLog {e : AesGcm.Encryption} (h : e ∈ encryptionLog protector stored) :
    ∃ s ∈ stored,
      e = ⟨protector.masterKey, s.secrets.wrapIv, wrapAadBytes s.input.aad.context, s.secrets.dataKey⟩ ∨
      e = ⟨s.secrets.dataKey, s.secrets.iv, buildAadBytes s.input.aad, s.input.plaintext⟩ := by
  obtain ⟨s, hs, he⟩ := List.mem_flatMap.mp h
  rw [Sealing.encryptions, List.mem_cons, List.mem_singleton] at he
  exact ⟨s, hs, he⟩

theorem wrapping_mem_log {s : Sealing p sha256Hex policy scanner} (hs : s ∈ stored) :
    ⟨protector.masterKey, s.secrets.wrapIv, wrapAadBytes s.input.aad.context, s.secrets.dataKey⟩ ∈
      encryptionLog protector stored := List.mem_flatMap.mpr ⟨s, hs, List.mem_cons_self⟩

theorem payload_mem_log {s : Sealing p sha256Hex policy scanner} (hs : s ∈ stored) :
    ⟨s.secrets.dataKey, s.secrets.iv, buildAadBytes s.input.aad, s.input.plaintext⟩ ∈ encryptionLog protector stored :=
  List.mem_flatMap.mpr ⟨s, hs, List.mem_cons_of_mem _ List.mem_cons_self⟩

/-- Whatever is presented, what is decrypted is a package stored for the same POD version and manifest. -/
theorem stored_of_decrypted (hp : p.HexDigest) (hne : stored ≠ [])
    (hauthentic : Authentic (encryptionLog protector stored) protector record)
    (h : decryptStoredRecord p sha256Hex protector record = .ok plaintext) :
    ∃ s ∈ stored, record.envelope.aad = s.input.aad ∧ plaintext = s.input.plaintext ∧
      buffer record.ciphertextB64 = (payloadOf s.secrets s.input).1 := by
  obtain ⟨-, dataKey, hunwrapped, -, -, -, -, hdecrypted⟩ := decryptStoredRecord_eq_ok.mp h
  obtain ⟨-, -, -, -, -, hkey⟩ := unwrapKey_eq_ok.mp hunwrapped
  -- the master key has been in use
  have hmaster : protector.masterKey ∈ (encryptionLog protector stored).map AesGcm.Encryption.key := by
    obtain ⟨first, hfirst⟩ := List.exists_mem_of_ne_nil _ hne
    exact List.mem_map.mpr ⟨_, wrapping_mem_log hfirst, rfl⟩
  obtain ⟨s, hs, hwrap | hpayload⟩ := mem_encryptionLog (hauthentic.wrapping hmaster _ hkey)
  · rw [AesGcm.Encryption.mk.injEq] at hwrap
    obtain ⟨-, -, hcontext, rfl⟩ := hwrap
    have haad := wrapAadBytes_inj (s.accepted_aad hp) hcontext
    have hused : s.secrets.dataKey ∈ (encryptionLog protector stored).map AesGcm.Encryption.key :=
      List.mem_map.mpr ⟨_, payload_mem_log hs, rfl⟩
    obtain ⟨s', hs', hwrap | hpayload⟩ := mem_encryptionLog (hauthentic.payload _ hunwrapped hused _ hdecrypted)
    · rw [AesGcm.Encryption.mk.injEq, haad] at hwrap
      exact absurd hwrap.2.2.1.symm (wrapAadBytes_ne_buildAadBytes _ (s.accepted_aad hp))
    · rw [AesGcm.Encryption.mk.injEq] at hpayload
      obtain ⟨hsame, hiv, htext, hplain⟩ := hpayload
      refine ⟨s', hs', buildAadBytes_inj (s'.accepted_aad hp) htext, hplain, ?_⟩
      rw [AesGcm.crypt_of_decrypt hdecrypted, hsame, hiv, hplain]
      rfl
  · rw [AesGcm.Encryption.mk.injEq] at hpayload
    exact absurd hpayload.2.2.1 (wrapAadBytes_ne_buildAadBytes _ (s.accepted_aad hp))

/-- The record of a stored package is not forged. -/
theorem IsRecord.authentic {s : Sealing p sha256Hex policy scanner} (hs : s ∈ stored)
    (h : IsRecord p sha256Hex protector s.secrets s.input record) :
    Authentic (encryptionLog protector stored) protector record where
  wrapping := by
    rw [h.wrappedKey, h.aad, buffer_encodeBase64, buffer_encodeBase64, buffer_encodeBase64]
    exact AesGcm.unforged_encrypt (wrapping_mem_log hs) _
  payload := by
    intro dataKey hkey
    have hsame : s.secrets.dataKey = dataKey := Except.ok.inj (h.unwrapKey.symm.trans hkey)
    rw [h.aad, h.iv, h.ciphertext, buffer_encodeBase64, buffer_encodeBase64, ← hsame]
    exact AesGcm.unforged_encrypt (payload_mem_log hs) _

end Authentic

/-- An accepted package is read back from its record with the values it had, and its hashes, computed again, are those
of the envelope. A record with another envelope and the integrity hash it had, or with another integrity hash alone, is
not decrypted; nor is one with other bytes under its ciphertext hash. Whatever is presented, resealed or not, what is
decrypted is a package that was stored for the same POD version and manifest, under the ciphertext it was stored with. -/
theorem stored_packages_decrypt_to_what_was_submitted {p : Platform} (hp : p.HexDigest)
    (sha256Hex : List UInt8 → JsString) (policy : PodFilePolicy) (scanner : Option PodContentScanner)
    (protector : AesGcmMasterKeyProtector) (stored : List (Sealing p sha256Hex policy scanner))
    (s : Sealing p sha256Hex policy scanner) (hs : s ∈ stored) :
    ∃ record, encryptAndBuildRecord p sha256Hex protector s.secrets s.input = .ok record ∧
      (∃ plaintext decoded pkg manifest, decryptStoredRecord p sha256Hex protector record = .ok plaintext ∧
        decodePlaintextPackage plaintext = .ok decoded ∧ decoded.package = some pkg ∧ pkg = s.package ∧
        buildCanonicalManifest sha256Hex policy scanner pkg.files = .ok manifest ∧
        manifestHash p manifest = record.envelope.manifestHash ∧
        packageContentHash p pkg.fields manifest = record.envelope.plaintextPackageHash) ∧
      (∀ altered : StoredPodRecord, altered.envelope ≠ record.envelope →
        altered.envelope.integrityHash = record.envelope.integrityHash ∨
          { altered.envelope with integrityHash := record.envelope.integrityHash } = record.envelope →
        p.Separates altered.envelope.restJson record.envelope.restJson →
          ∃ e, decryptStoredRecord p sha256Hex protector altered = .error e) ∧
      (∀ altered : StoredPodRecord, altered.envelope.ciphertextHash = record.envelope.ciphertextHash →
        buffer altered.ciphertextB64 ≠ buffer record.ciphertextB64 →
        (sha256Hex (buffer altered.ciphertextB64) = sha256Hex (buffer record.ciphertextB64) →
          buffer altered.ciphertextB64 = buffer record.ciphertextB64) →
          ∃ e, decryptStoredRecord p sha256Hex protector altered = .error e) ∧
      ∀ (altered : StoredPodRecord) (plaintext : List UInt8), Authentic (encryptionLog protector stored) protector altered →
        decryptStoredRecord p sha256Hex protector altered = .ok plaintext →
          ∃ original ∈ stored, altered.envelope.aad = original.input.aad ∧ plaintext = original.input.plaintext ∧
            buffer altered.ciphertextB64 = (payloadOf original.secrets original.input).1 := by
  obtain ⟨record, hbuilt, hrecord⟩ := exists_record p sha256Hex protector s.secrets s.input
  obtain ⟨decoded, hdecoded, hpackage⟩ := decode_encode s.package
  refine ⟨record, hbuilt, ?_, ?_, ?_, ?_⟩
  · refine ⟨_, decoded, s.package, s.manifest, hrecord.decrypt, hdecoded, hpackage, rfl, s.built, ?_, ?_⟩
    · exact (congrArg PodAadBinding.manifestHash hrecord.aad).symm
    · exact hrecord.packageHash.symm
  · intro altered hne hkept hsep
    exact refused_of_integrity hrecord.integrity hne hkept hsep
  · intro altered hhash hne hsep
    exact refused_of_ciphertext hrecord hhash hne hsep
  · intro altered plaintext hauthentic h
    exact stored_of_decrypted hp (List.ne_nil_of_mem hs) hauthentic h

/-! ## A record of two files -/

namespace TwoFiles

def storePlatform : Platform := asciiPlatform fun _ _ _ => false

def protector : AesGcmMasterKeyProtector := ⟨List.replicate 32 0x07, rfl⟩

def secrets : RecordSecrets := ⟨List.replicate 32 0x01, List.replicate 12 0x02, List.replicate 12 0x03, rfl, rfl, rfl⟩

theorem accepted_fields : assertPackageFields fields = .ok () := rfl

def sealing : Sealing storePlatform digest DEFAULT_POD_FILE_POLICY (some scanner) where
  fields := fields
  files := [receipt, metadata]
  carrierSignature := js "s"
  manifest := manifestOf digest [receipt, metadata]
  secrets := secrets
  accepted := accepted_fields
  built := buildCanonicalManifest_eq_ok.mpr ⟨accepted, rfl⟩

end TwoFiles

open TwoFiles in
/-- The record itself, with another integrity hash, and resealed with another time of its creation. -/
theorem stored_packages_decrypt_to_what_was_submitted_two_files :
    ∃ record, encryptAndBuildRecord storePlatform digest protector secrets sealing.input = .ok record ∧
      decryptStoredRecord storePlatform digest protector record = .ok sealing.input.plaintext ∧
      (∃ e, decryptStoredRecord storePlatform digest protector
        { record with envelope := { record.envelope with integrityHash := [] } } = .error e) ∧
      ∃ original ∈ [sealing], record.envelope.aad = original.input.aad := by
  obtain ⟨record, hbuilt, ⟨plaintext, decoded, pkg, manifest, hplain, -⟩, hkept, -, hany⟩ :=
    stored_packages_decrypt_to_what_was_submitted (hexDigest_asciiPlatform fun _ _ _ => false) digest
      DEFAULT_POD_FILE_POLICY (some scanner) protector [sealing] sealing (List.mem_singleton_self _)
  obtain ⟨_, hsame, hrecord⟩ := exists_record storePlatform digest protector secrets sealing.input
  cases hbuilt.symm.trans hsame
  have hdecrypted := hrecord.decrypt
  refine ⟨record, hbuilt, hdecrypted, hkept _ ?_ (.inr rfl) (fun _ => rfl), ?_⟩
  · intro heq
    have hhash : record.envelope.integrityHash = [] := (congrArg PodStorageEnvelope.integrityHash heq).symm
    rw [← (assertEnvelopeIntegrity_eq_ok.mp hrecord.integrity).2] at hhash
    exact absurd (List.append_eq_nil_iff.mp hhash).1 (by decide)
  · obtain ⟨original, horiginal, haad, -⟩ :=
      hany record _ (hrecord.authentic (List.mem_singleton_self _)) hdecrypted
    exact ⟨original, horiginal, haad⟩

open TwoFiles in
/-- A record that is resealed with another time of its creation, and one whose ciphertext is followed by a newline. -/
theorem resealed_record_decrypts :
    ∃ record, encryptAndBuildRecord storePlatform digest protector secrets sealing.input = .ok record ∧
      ∃ resealed longer : StoredPodRecord,
        resealed.envelope.createdAt ≠ record.envelope.createdAt ∧ longer.ciphertextB64 ≠ record.ciphertextB64 ∧
          decryptStoredRecord storePlatform digest protector resealed = .ok sealing.input.plaintext ∧
          decryptStoredRecord storePlatform digest protector longer = .ok sealing.input.plaintext := by
  obtain ⟨record, hbuilt, hrecord⟩ := exists_record storePlatform digest protector secrets sealing.input
  have hbytes : buffer record.ciphertextB64 ≠ [] := by
    rw [hrecord.ciphertext, buffer_encodeBase64]
    exact sealing.payload_ne_nil
  refine ⟨record, hbuilt, _, _, ?_, ?_, decrypt_resealed hrecord.decrypt (record.envelope.createdAt ++ [0x0A]),
    decrypt_newline hrecord.decrypt hbytes⟩
  · exact fun h => absurd (congrArg List.length h) (by simp [sealEnvelope])
  · exact fun h => absurd (congrArg List.length h) (by simp)

end RouteGuard.Pod
