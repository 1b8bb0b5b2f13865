import RouteGuard.Pod.Manifest

/-!
# Packages whatever the order of their files

* `buildCanonicalManifest_eq_ok` : when a manifest is built, and which one;
* `buildCanonicalManifest_perm` : the order of the files does not matter;
* `packageContentHash_inj` : packages with one content hash have the same fields and the same files.
-/

namespace RouteGuard.Pod
open JsString Json Guarded Sorting

/-! ## When a manifest is built -/

section Build
variable {sha256Hex : List UInt8 → JsString} {policy : PodFilePolicy} {scanner : Option PodContentScanner}

/-- The checks of a file that do not look at the other files. -/
structure FileAccepted (policy : PodFilePolicy) (scanner : Option PodContentScanner) (file : PodFileInput) : Prop where
  fileId : 1 ≤ file.fileId.length ∧ file.fileId.length ≤ 64 ∧ file.fileId.all isFileIdUnit
  documentType : file.documentType ∈ POD_DOCUMENT_TYPES
  mimeType : file.mimeType ∈ policy.allowedMimeTypes
  filename : assertSafeFilename file.filename = .ok file.filename
  nonempty : file.bytes.length ≠ 0
  size : file.bytes.length ≤ policy.maxFileBytes
  scan : scanFile scanner file = .ok ()

/-- The entry of an accepted file. -/
def entryOf (sha256Hex : List UInt8 → JsString) (file : PodFileInput) : PodManifestEntry :=
  ⟨file.fileId, file.documentType, file.fileId ++ js "__" ++ file.filename, file.mimeType, file.bytes.length,
    sha256Digest sha256Hex file.bytes⟩

def totalLength (files : List PodFileInput) : Nat := (files.map fun file => file.bytes.length).sum

theorem assertSafeFilename_eq_ok {name safe : JsString} :
    assertSafeFilename name = .ok safe ↔ assertSafeFilename name = .ok name ∧ safe = name := by
  simp only [assertSafeFilename, bind_eq_ok, require_eq_ok, exists_const, pure_eq_ok]
  constructor
  · rintro ⟨h1, h2, h3, h4, rfl⟩
    exact ⟨⟨h1, h2, h3, h4, trivial⟩, rfl⟩
  · rintro ⟨⟨h1, h2, h3, h4, -⟩, rfl⟩
    exact ⟨h1, h2, h3, h4, rfl⟩

theorem buildEntry_eq_ok {seenIds : List JsString} {totalBytes : Nat} {file : PodFileInput} {entry : PodManifestEntry} :
    buildEntry sha256Hex policy scanner seenIds totalBytes file = .ok entry ↔
      FileAccepted policy scanner file ∧ file.fileId ∉ seenIds ∧
        totalBytes + file.bytes.length ≤ policy.maxPackageBytes ∧ entry = entryOf sha256Hex file := by
  simp only [buildEntry, assertMimeAllowed, storageNameFor, bind_eq_ok, require_eq_ok, exists_const, pure_eq_ok]
  constructor
  · rintro ⟨hid, hnew, htype, hmime, _, hname, hne, hsize, htotal, _, hscan, _, ⟨safe, hsafe, rfl⟩, rfl⟩
    obtain ⟨hname, -⟩ := assertSafeFilename_eq_ok.mp hname
    obtain ⟨-, rfl⟩ := assertSafeFilename_eq_ok.mp hsafe
    exact ⟨⟨hid, htype, hmime, hname, hne, hsize, hscan⟩, hnew, htotal, rfl⟩
  · rintro ⟨h, hnew, htotal, rfl⟩
    exact ⟨h.fileId, hnew, h.documentType, h.mimeType, _, h.filename, h.nonempty, h.size, htotal, (), h.scan, _,
      ⟨_, h.filename, rfl⟩, rfl⟩

/-- The loop succeeds when each file is accepted, none has the id of an earlier one, and the bytes in all stay within
the limit. -/
theorem buildEntries_eq_ok {files : List PodFileInput} {seenIds : List JsString} {totalBytes total : Nat}
    {entries : List PodManifestEntry} :
    buildEntries sha256Hex policy scanner seenIds totalBytes files = .ok (entries, total) ↔
      (∀ file ∈ files, FileAccepted policy scanner file) ∧ (files.map PodFileInput.fileId).Nodup ∧
        (∀ file ∈ files, file.fileId ∉ seenIds) ∧
        (files = [] ∨ totalBytes + totalLength files ≤ policy.maxPackageBytes) ∧
        entries = files.map (entryOf sha256Hex) ∧ total = totalBytes + totalLength files := by
  induction files generalizing seenIds totalBytes entries total with
  | nil =>
    rw [buildEntries, pure_eq_ok]
    simp [totalLength, eq_comm]
  | cons file rest ih =>
    have hsum : totalLength (file :: rest) = file.bytes.length + totalLength rest := by simp [totalLength]
    rw [List.forall_mem_cons, List.forall_mem_cons]
    simp only [buildEntries, bind_eq_ok, buildEntry_eq_ok, pure_eq_ok, Prod.exists, ih, hsum, List.map_cons,
      List.nodup_cons, List.mem_map, List.mem_cons, not_or, Prod.mk.injEq]
    constructor
    · rintro ⟨_, ⟨hfile, hnew, hle, rfl⟩, _, _, ⟨hrest, hnodup, hseen, htotal, rfl, rfl⟩, rfl, rfl⟩
      refine ⟨⟨hfile, hrest⟩, ⟨?_, hnodup⟩, ⟨hnew, fun f hf => (hseen f hf).2⟩, .inr ?_, rfl, by omega⟩
      · rintro ⟨f, hf, heq⟩
        exact (hseen f hf).1 heq
      · rcases htotal with rfl | htotal
        · simpa [totalLength] using hle
        · omega
    · rintro ⟨⟨hfile, hrest⟩, ⟨hfirst, hnodup⟩, ⟨hnew, hseen⟩, htotal, rfl, rfl⟩
      have htotal := htotal.resolve_left (List.cons_ne_nil _ _)
      refine ⟨_, ⟨hfile, hnew, by omega, rfl⟩, _, _, ⟨hrest, hnodup, ?_, .inr (by omega), rfl, rfl⟩, rfl, by omega⟩
      exact fun f hf => ⟨fun heq => hfirst ⟨f, hf, heq⟩, hseen f hf⟩

/-- The files of a package that is accepted. -/
structure FilesAccepted (policy : PodFilePolicy) (scanner : Option PodContentScanner) (files : List PodFileInput) :
    Prop where
  nonempty : files.length ≠ 0
  count : files.length ≤ policy.maxFiles
  each : ∀ file ∈ files, FileAccepted policy scanner file
  ids : (files.map PodFileInput.fileId).Nodup
  total : totalLength files ≤ policy.maxPackageBytes

/-- The manifest of accepted files. -/
def manifestOf (sha256Hex : List UInt8 → JsString) (files : List PodFileInput) : PodCanonicalManifest :=
  ⟨sortOn PodManifestEntry.fileId (files.map (entryOf sha256Hex)), files.length, totalLength files⟩

theorem buildCanonicalManifest_eq_ok {files : List PodFileInput} {manifest : PodCanonicalManifest} :
    buildCanonicalManifest sha256Hex policy scanner files = .ok manifest ↔
      FilesAccepted policy scanner files ∧ manifest = manifestOf sha256Hex files := by
  simp only [buildCanonicalManifest, bind_eq_ok, require_eq_ok, exists_const, Prod.exists, buildEntries_eq_ok, pure_eq_ok,
    Nat.zero_add]
  constructor
  · rintro ⟨hne, hcount, _, _, ⟨heach, hids, -, htotal, rfl, rfl⟩, rfl⟩
    refine ⟨⟨hne, hcount, heach, hids, htotal.resolve_left fun h => hne (by simp [h])⟩, ?_⟩
    simp [manifestOf]
  · rintro ⟨h, rfl⟩
    refine ⟨h.nonempty, h.count, _, _, ⟨h.each, h.ids, by simp, .inr h.total, rfl, rfl⟩, ?_⟩
    simp [manifestOf]

/-! ## The order of the files -/

theorem totalLength_perm {files files' : List PodFileInput} (hp : files.Perm files') :
    totalLength files = totalLength files' := (hp.map fun file : PodFileInput => file.bytes.length).sum_eq

theorem FilesAccepted.perm {files files' : List PodFileInput} (hp : files.Perm files')
    (h : FilesAccepted policy scanner files) : FilesAccepted policy scanner files' where
  nonempty := hp.length_eq ▸ h.nonempty
  count := hp.length_eq ▸ h.count
  each file hfile := h.each file (hp.mem_iff.mpr hfile)
  ids := (hp.map _).nodup_iff.mp h.ids
  total := totalLength_perm hp ▸ h.total

theorem manifestOf_perm {files files' : List PodFileInput} (hp : files.Perm files')
    (h : (files.map PodFileInput.fileId).Nodup) : manifestOf sha256Hex files = manifestOf sha256Hex files' := by
  have hkeys : ((files.map (entryOf sha256Hex)).map PodManifestEntry.fileId).Nodup := by
    rwa [List.map_map]
  rw [manifestOf, manifestOf, sortOn_congr (hp.map _) hkeys, hp.length_eq, totalLength_perm hp]

/-- The order of the files decides neither whether a manifest is built nor which one. -/
theorem buildCanonicalManifest_perm {files files' : List PodFileInput} (hp : files.Perm files')
    (manifest : PodCanonicalManifest) :
    buildCanonicalManifest sha256Hex policy scanner files = .ok manifest ↔
      buildCanonicalManifest sha256Hex policy scanner files' = .ok manifest := by
  rw [buildCanonicalManifest_eq_ok, buildCanonicalManifest_eq_ok]
  constructor
  · rintro ⟨h, rfl⟩
    exact ⟨h.perm hp, manifestOf_perm hp h.ids⟩
  · rintro ⟨h, rfl⟩
    exact ⟨h.perm hp.symm, manifestOf_perm hp.symm h.ids⟩

end Build

/-! ## What the hashes say -/

theorem PodManifestEntry.distinct_toJson (e : PodManifestEntry) : Distinct e.toJson := by
  refine ⟨?_, trivial, trivial, trivial, trivial, trivial, trivial, trivial⟩
  show [js "fileId", js "documentType", js "storageName", js "mimeType", js "byteLength", js "plaintextSha256"].Nodup
  decide

theorem PodManifestEntry.toJson_inj (a b : PodManifestEntry) (h : canonicalize a.toJson = canonicalize b.toJson) :
    a = b := by
  have hvalues := canonicalize_obj_values (by rfl) a.distinct_toJson b.distinct_toJson h
  simp only [List.map_cons, List.cons.injEq, canonicalize_str_inj, canonicalize_num_inj, Nat.cast_inj] at hvalues
  cases a
  cases b
  simp_all

theorem distinct_arr {α : Type} {f : α → Json} (h : ∀ a, Distinct (f a)) (l : List α) : DistinctItems (l.map f) := by
  refine (distinctItems_iff _).mpr fun v hv => ?_
  obtain ⟨a, -, rfl⟩ := List.mem_map.mp hv
  exact h a

theorem PodCanonicalManifest.distinct_toJson (m : PodCanonicalManifest) : Distinct m.toJson := by
  refine ⟨?_, trivial, trivial, distinct_arr PodManifestEntry.distinct_toJson _, trivial⟩
  show [js "documentCount", js "totalBytes", js "entries"].Nodup
  decide

theorem PodCanonicalManifest.toJson_inj (a b : PodCanonicalManifest) (h : canonicalize a.toJson = canonicalize b.toJson) :
    a = b := by
  have hvalues := canonicalize_obj_values (by rfl) a.distinct_toJson b.distinct_toJson h
  simp only [List.map_cons, List.cons.injEq, canonicalize_num_inj, Nat.cast_inj] at hvalues
  obtain ⟨hcount, htotal, hentries, -⟩ := hvalues
  have hentries := canonicalize_arr_inj PodManifestEntry.distinct_toJson PodManifestEntry.toJson_inj hentries
  cases a
  cases b
  simp_all

section Hashes
variable {p : Platform} {fields fields' : PodPackageFields} {manifest manifest' : PodCanonicalManifest}

theorem distinct_packageJson (fields : PodPackageFields) (manifest : PodCanonicalManifest) :
    Distinct (packageJson p fields manifest) := by
  refine ⟨?_, trivial, trivial, trivial, trivial, trivial, trivial, trivial, trivial, trivial, trivial, trivial,
    distinct_arr (f := .str) (fun _ => trivial) _, trivial, trivial, trivial, distinct_arr (fun e => ?_) _, trivial⟩
  · show [js "podId", js "podVersion", js "tenderId", js "tenderVersion", js "winningBidId", js "escrowTenderKey",
      js "carrierId", js "carrierAccountId", js "deliveryTimestamp", js "recipientConfirmationPresent",
      js "cargoConditionCode", js "exceptionCodes", js "submittedAt", js "actionId", js "manifestHash", js "files"].Nodup
    decide
  · refine ⟨?_, trivial, trivial, trivial, trivial⟩
    show [js "fileId", js "plaintextSha256", js "byteLength"].Nodup
    decide

/-- The fields but for the exception codes. -/
def withoutExceptions (fields : PodPackageFields) : PodPackageFields := { fields with exceptionCodes := [] }

/-- Packages with one text have the same fields, the exception codes in some order, and one manifest hash. -/
theorem packageJson_inj (h : canonicalize (packageJson p fields manifest) = canonicalize (packageJson p fields' manifest')) :
    withoutExceptions fields = withoutExceptions fields' ∧ fields.exceptionCodes.Perm fields'.exceptionCodes ∧
      manifestHash p manifest = manifestHash p manifest' := by
  have hvalues := canonicalize_obj_values (by rfl) (distinct_packageJson fields manifest)
    (distinct_packageJson fields' manifest') h
  simp only [List.map_cons, List.cons.injEq, canonicalize_str_inj, canonicalize_num_inj, canonicalize_bool_inj] at hvalues
  obtain ⟨h1, h2, h3, h4, h5, h6, h7, h8, h9, h10, h11, hcodes, h13, h14, hmanifest, -⟩ := hvalues
  have hsorted := canonicalize_arr_inj (f := .str) (fun _ => trivial) (fun _ _ => canonicalize_str_inj.mp) hcodes
  refine ⟨?_, ?_, hmanifest⟩
  · cases fields
    cases fields'
    simp_all [withoutExceptions]
  · exact (perm_sortOn id _).symm.trans (hsorted ▸ perm_sortOn id _)

/-- A file by its id, its name, its types, its length and its digest. -/
def describe (sha256Hex : List UInt8 → JsString) (file : PodFileInput) :
    JsString × JsString × JsString × JsString × Nat × JsString :=
  (file.fileId, file.filename, file.documentType, file.mimeType, file.bytes.length, sha256Digest sha256Hex file.bytes)

/-- A description is read off the entry: the name follows the id and two underscores. -/
def describeEntry (e : PodManifestEntry) : JsString × JsString × JsString × JsString × Nat × JsString :=
  (e.fileId, e.storageName.drop (e.fileId.length + 2), e.documentType, e.mimeType, e.byteLength, e.plaintextSha256)

theorem describeEntry_entryOf (sha256Hex : List UInt8 → JsString) (file : PodFileInput) :
    describeEntry (entryOf sha256Hex file) = describe sha256Hex file := by
  have hname : (file.fileId ++ js "__" ++ file.filename).drop (file.fileId.length + 2) = file.filename :=
    List.drop_left' (by rw [List.length_append]; rfl)
  unfold describeEntry entryOf describe
  rw [hname]

/-- Manifests that are equal list the same files. -/
theorem files_of_manifestOf {sha256Hex : List UInt8 → JsString} {files files' : List PodFileInput}
    (h : manifestOf sha256Hex files = manifestOf sha256Hex files') :
    (files.map (describe sha256Hex)).Perm (files'.map (describe sha256Hex)) := by
  have hsorted : sortOn PodManifestEntry.fileId (files.map (entryOf sha256Hex)) =
      sortOn PodManifestEntry.fileId (files'.map (entryOf sha256Hex)) := congrArg PodCanonicalManifest.entries h
  have hentries : (files.map (entryOf sha256Hex)).Perm (files'.map (entryOf sha256Hex)) :=
    (perm_sortOn PodManifestEntry.fileId _).symm.trans (hsorted ▸ perm_sortOn PodManifestEntry.fileId _)
  have hdescribed := hentries.map describeEntry
  rw [List.map_map, List.map_map] at hdescribed
  have hcomp : describeEntry ∘ entryOf sha256Hex = describe sha256Hex := funext (describeEntry_entryOf sha256Hex)
  rwa [hcomp] at hdescribed

/-- Permuted exception codes leave the package hash as it is. -/
theorem packageContentHash_perm {codes : List JsString} (h : codes.Perm fields.exceptionCodes) :
    packageContentHash p { fields with exceptionCodes := codes } manifest = packageContentHash p fields manifest := by
  have hsorted : sortOn id codes = sortOn id fields.exceptionCodes := by
    refine ((perm_sortOn id codes).trans (h.trans (perm_sortOn id _).symm)).eq_of_pairwise ?_ (pairwise_sortOn id _)
      (pairwise_sortOn id _)
    exact fun _ _ _ _ => le_antisymm
  unfold packageContentHash packageJson
  rw [hsorted]

/-- One package hash, where neither the digests of the two package texts collide nor those of the manifest texts. -/
theorem packageContentHash_inj (hpackage : p.Separates (packageJson p fields manifest) (packageJson p fields' manifest'))
    (hmanifest : p.Separates manifest.toJson manifest'.toJson)
    (h : packageContentHash p fields manifest = packageContentHash p fields' manifest') :
    withoutExceptions fields = withoutExceptions fields' ∧ fields.exceptionCodes.Perm fields'.exceptionCodes ∧
      manifest = manifest' := by
  obtain ⟨hfields, hcodes, hhash⟩ := packageJson_inj (hpackage.eq_of_canonicalSha256 h)
  exact ⟨hfields, hcodes, PodCanonicalManifest.toJson_inj _ _ (hmanifest.eq_of_canonicalSha256 hhash)⟩

/-- The order in which files are uploaded decides neither whether a manifest is built nor which one, the order of the
exception codes does not change the package hash, and two packages with manifests have one package hash only if their
fields agree, the exception codes up to their order, and their files by id, name, types, length and digest. -/
theorem packages_ignore_order_and_bind_content (p : Platform) (sha256Hex : List UInt8 → JsString) (policy : PodFilePolicy)
    (scanner : Option PodContentScanner) :
    (∀ (files files' : List PodFileInput) (manifest : PodCanonicalManifest), files.Perm files' →
        (buildCanonicalManifest sha256Hex policy scanner files = .ok manifest ↔
          buildCanonicalManifest sha256Hex policy scanner files' = .ok manifest)) ∧
      (∀ (fields : PodPackageFields) (manifest : PodCanonicalManifest) (codes : List JsString),
        codes.Perm fields.exceptionCodes →
          packageContentHash p { fields with exceptionCodes := codes } manifest = packageContentHash p fields manifest) ∧
      ∀ (fields fields' : PodPackageFields) (files files' : List PodFileInput) (manifest manifest' : PodCanonicalManifest),
        buildCanonicalManifest sha256Hex policy scanner files = .ok manifest →
        buildCanonicalManifest sha256Hex policy scanner files' = .ok manifest' →
        p.Separates (packageJson p fields manifest) (packageJson p fields' manifest') →
        p.Separates manifest.toJson manifest'.toJson →
        packageContentHash p fields manifest = packageContentHash p fields' manifest' →
          withoutExceptions fields = withoutExceptions fields' ∧ fields.exceptionCodes.Perm fields'.exceptionCodes ∧
            (files.map (describe sha256Hex)).Perm (files'.map (describe sha256Hex)) := by
  refine ⟨fun _ _ manifest hp => buildCanonicalManifest_perm hp manifest, fun _ _ _ => packageContentHash_perm, ?_⟩
  intro fields fields' files files' manifest manifest' hbuilt hbuilt' hpackage hmanifest h
  obtain ⟨hfields, hcodes, hsame⟩ := packageContentHash_inj hpackage hmanifest h
  obtain ⟨-, rfl⟩ := buildCanonicalManifest_eq_ok.mp hbuilt
  obtain ⟨-, rfl⟩ := buildCanonicalManifest_eq_ok.mp hbuilt'
  exact ⟨hfields, hcodes, files_of_manifestOf hsame⟩

end Hashes

/-! ## Two files in both orders -/

namespace TwoFiles

def receipt : PodFileInput :=
  ⟨js "r", js "ELECTRONIC_DELIVERY_RECEIPT", js "r.pdf", js "application/pdf", [0x25, 0x50, 0x44, 0x46, 0x2D, 0x31]⟩

def metadata : PodFileInput :=
  ⟨js "m", js "STRUCTURED_DELIVERY_METADATA", js "m.json", js "application/json", [0x7B, 0x7D]⟩

/-- SHA-256 of ASCII texts. -/
def digest (bytes : List UInt8) : JsString := Sha256.sha256Hex (bytes.map fun b => UInt16.ofNat b.toNat)

def scanner : PodContentScanner := deterministicSafeScan fun bytes => bytes = [0x7B, 0x7D]

def fields : PodPackageFields where
  podId := js "p"
  podVersion := 1
  tenderId := js "t"
  tenderVersion := 1
  winningBidId := js "b"
  escrowTenderKey := js "0x" ++ List.replicate 64 0x61
  carrierId := js "c"
  carrierAccountId := js "0.0.7"
  deliveryTimestamp := js "2026-01-02T00:00:00Z"
  recipientConfirmationPresent := true
  cargoConditionCode := js "GOOD"
  exceptionCodes := [js "LATE", js "DAMAGED"]
  submittedAt := js "2026-01-02T01:00:00Z"
  actionId := js "a"

theorem accepted : FilesAccepted DEFAULT_POD_FILE_POLICY (some scanner) [receipt, metadata] where
  nonempty := by decide
  count := by decide
  each := by
    rw [List.forall_mem_cons, List.forall_mem_singleton]
    constructor <;> constructor <;> decide
  ids := by decide
  total := by decide

end TwoFiles

theorem packages_ignore_order_and_bind_content_two_files :
    TwoFiles.fields.exceptionCodes.Perm [js "DAMAGED", js "LATE"] ∧
      ([TwoFiles.receipt, TwoFiles.metadata].map (describe TwoFiles.digest)).Perm
        ([TwoFiles.metadata, TwoFiles.receipt].map (describe TwoFiles.digest)) := by
  let p := asciiPlatform fun _ _ _ => false
  let manifest := manifestOf TwoFiles.digest [TwoFiles.receipt, TwoFiles.metadata]
  let codes := [js "DAMAGED", js "LATE"]
  have hcodes : codes.Perm TwoFiles.fields.exceptionCodes := List.Perm.swap ..
  have hfiles : [TwoFiles.receipt, TwoFiles.metadata].Perm [TwoFiles.metadata, TwoFiles.receipt] := List.Perm.swap ..
  have hclaim := packages_ignore_order_and_bind_content p TwoFiles.digest DEFAULT_POD_FILE_POLICY (some TwoFiles.scanner)
  have hbuilt : buildCanonicalManifest TwoFiles.digest DEFAULT_POD_FILE_POLICY (some TwoFiles.scanner)
      [TwoFiles.receipt, TwoFiles.metadata] = .ok manifest := buildCanonicalManifest_eq_ok.mpr ⟨TwoFiles.accepted, rfl⟩
  have hreversed := (hclaim.1 _ _ manifest hfiles).mp hbuilt
  have htext : packageJson p { TwoFiles.fields with exceptionCodes := codes } manifest = packageJson p TwoFiles.fields manifest := by
    unfold packageJson
    rw [show sortOn id codes = sortOn id TwoFiles.fields.exceptionCodes by decide]
  have hsame := hclaim.2.1 TwoFiles.fields manifest codes hcodes
  have hbound := hclaim.2.2 TwoFiles.fields { TwoFiles.fields with exceptionCodes := codes } _ _ manifest manifest hbuilt hreversed
    (fun _ => by rw [htext]) (fun _ => rfl) hsame.symm
  exact hbound.2

end RouteGuard.Pod
