import RouteGuard.Lib.Separated
import RouteGuard.Lib.WriteOnce
import RouteGuard.Pod.Manifest

/-!
# The encrypted POD stores

The in-memory store and the filesystem store of encrypted packages. Both keep the first package of a POD version. The
file store writes `:` and `@` as `_` in the path of a package.

* `PodStorageEnvelope`, `assertEnvelopeIntegrity` : a sealed envelope;
* `MemoryPodEncryptedStore`, `FilePodEncryptedStore` : put and get of the two stores;
* `fileName_eq_iff` : the POD versions that share a file;
* `file_pods_agree_iff` : the calls to which the file store answers as the in-memory store does, and with no package of
  another POD version.
-/

namespace RouteGuard.Pod
open JsString Json Guarded Separated

/-! ## Envelopes -/

def POD_STORE_SCHEMA : JsString := js "routeguard-v2-pod-store-1.0"

structure WrappedPodDataKey where
  wrapAlg : JsString
  wrappedKeyB64 : JsString
  wrapIvB64 : JsString
  wrapTagB64 : JsString
  deriving DecidableEq, Repr

/-- A version of a POD of a tender version. -/
structure PodKey where
  tenderId : JsString
  tenderVersion : Int
  podId : JsString
  podVersion : Int
  deriving DecidableEq, Repr

structure PodStorageEnvelope extends PodKey where
  schemaVersion : JsString
  ciphertextRef : JsString
  ciphertextHash : JsString
  plaintextPackageHash : JsString
  manifestHash : JsString
  encryptionAlg : JsString
  ivB64 : JsString
  authTagB64 : JsString
  wrappedKey : WrappedPodDataKey
  wrapAlg : JsString
  aadHash : JsString
  ciphertextBytes : Nat
  plaintextBytes : Nat
  createdAt : JsString
  integrityHash : JsString
  publicFields : PodPackageFields
  publicManifest : PodCanonicalManifest
  deriving DecidableEq, Repr

structure StoredPodRecord where
  envelope : PodStorageEnvelope
  ciphertextB64 : JsString
  deriving DecidableEq, Repr

def WrappedPodDataKey.toJson (k : WrappedPodDataKey) : Json :=
  .obj
    [(js "wrapAlg", .str k.wrapAlg), (js "wrappedKeyB64", .str k.wrappedKeyB64), (js "wrapIvB64", .str k.wrapIvB64),
     (js "wrapTagB64", .str k.wrapTagB64)]

def PodPackageFields.toJson (f : PodPackageFields) : Json :=
  .obj
    [(js "podId", .str f.podId), (js "podVersion", .num f.podVersion), (js "tenderId", .str f.tenderId),
     (js "tenderVersion", .num f.tenderVersion), (js "winningBidId", .str f.winningBidId),
     (js "escrowTenderKey", .str f.escrowTenderKey), (js "carrierId", .str f.carrierId),
     (js "carrierAccountId", .str f.carrierAccountId), (js "deliveryTimestamp", .str f.deliveryTimestamp),
     (js "recipientConfirmationPresent", .bool f.recipientConfirmationPresent),
     (js "cargoConditionCode", .str f.cargoConditionCode), (js "exceptionCodes", .arr (f.exceptionCodes.map .str)),
     (js "submittedAt", .str f.submittedAt), (js "actionId", .str f.actionId)]

/-- The envelope without its integrity hash. -/
def PodStorageEnvelope.restJson (e : PodStorageEnvelope) : Json :=
  .obj
    [(js "schemaVersion", .str e.schemaVersion), (js "tenderId", .str e.tenderId),
     (js "tenderVersion", .num e.tenderVersion), (js "podId", .str e.podId), (js "podVersion", .num e.podVersion),
     (js "ciphertextRef", .str e.ciphertextRef), (js "ciphertextHash", .str e.ciphertextHash),
     (js "plaintextPackageHash", .str e.plaintextPackageHash), (js "manifestHash", .str e.manifestHash),
     (js "encryptionAlg", .str e.encryptionAlg), (js "ivB64", .str e.ivB64), (js "authTagB64", .str e.authTagB64),
     (js "wrappedKey", e.wrappedKey.toJson), (js "wrapAlg", .str e.wrapAlg), (js "aadHash", .str e.aadHash),
     (js "ciphertextBytes", .num e.ciphertextBytes), (js "plaintextBytes", .num e.plaintextBytes),
     (js "createdAt", .str e.createdAt), (js "publicFields", e.publicFields.toJson),
     (js "publicManifest", e.publicManifest.toJson)]

section Integrity
variable (p : Platform)

def integrityOf (e : PodStorageEnvelope) : JsString := canonicalSha256 p.sha256Hex e.restJson

def sealEnvelope (e : PodStorageEnvelope) : PodStorageEnvelope := { e with integrityHash := integrityOf p e }

def assertEnvelopeIntegrity (e : PodStorageEnvelope) : Except PodError Unit := do
  require (e.schemaVersion = POD_STORE_SCHEMA) ⟨.POD_STORAGE_CORRUPT, js "unsupported storage schema"⟩
  require (integrityOf p e = e.integrityHash) ⟨.POD_STORAGE_CORRUPT, js "envelope integrity mismatch"⟩

end Integrity

def StoredPodRecord.key (record : StoredPodRecord) : PodKey := record.envelope.toPodKey

/-! ## Names -/

def storageKey (k : PodKey) : JsString :=
  k.tenderId ++ js "|" ++ decimalInt k.tenderVersion ++ js "|" ++ k.podId ++ js "|v" ++ decimalInt k.podVersion

/-- `value.replace(/[:@]/g, "_")`. -/
def maskSeg (value : JsString) : JsString := value.map fun u => if u ∈ js ":@" then 0x5F else u

/-- The pattern of a storage-safe segment is that of the ids of a package. -/
def safeSeg (label value : JsString) : Except PodError JsString := do
  require (isPackageId value) ⟨.POD_INVALID, label ++ js " not storage-safe"⟩
  pure (maskSeg value)

/-- The path of a package under the root directory. -/
def pathOf (tenderSeg podSeg : JsString) (k : PodKey) : JsString :=
  tenderSeg ++ js "/v" ++ decimalInt k.tenderVersion ++ js "/" ++ podSeg ++ js "/pod-v" ++ decimalInt k.podVersion ++
    js ".json"

def pathFor (k : PodKey) : Except PodError JsString := do
  let tenderSeg ← safeSeg (js "tenderId") k.tenderId
  let podSeg ← safeSeg (js "podId") k.podId
  pure (pathOf tenderSeg podSeg k)

/-! ## The stores -/

section Stores
variable (p : Platform)

def alreadyExists : PodError := ⟨.POD_ALREADY_EXISTS, js "POD version already stored"⟩

/-- The packages of a store, by name. -/
abbrev Packages := JsString → Option StoredPodRecord

namespace MemoryPodEncryptedStore

def put (map : Packages) (record : StoredPodRecord) : Except PodError Unit × Packages :=
  match assertEnvelopeIntegrity p record.envelope with
  | .error e => (.error e, map)
  | .ok () =>
    match map (storageKey record.key) with
    | some _ => (.error alreadyExists, map)
    | none => (.ok (), Function.update map (storageKey record.key) (some record))

def get (map : Packages) (k : PodKey) : Except PodError (Option StoredPodRecord) :=
  match map (storageKey k) with
  | none => .ok none
  | some hit => do
    assertEnvelopeIntegrity p hit.envelope
    pure (some hit)

end MemoryPodEncryptedStore

namespace FilePodEncryptedStore

def put (files : Packages) (record : StoredPodRecord) : Except PodError Unit × Packages :=
  match assertEnvelopeIntegrity p record.envelope, pathFor record.key with
  | .error e, _ => (.error e, files)
  | .ok (), .error e => (.error e, files)
  | .ok (), .ok file =>
    match files file with
    | some _ => (.error alreadyExists, files)
    | none => (.ok (), Function.update files file (some record))

/-- What is parsed from a file is what was written to it. -/
def get (files : Packages) (k : PodKey) : Except PodError (Option StoredPodRecord) := do
  let file ← pathFor k
  match files file with
  | none => pure none
  | some record => do
    assertEnvelopeIntegrity p record.envelope
    pure (some record)

end FilePodEncryptedStore

/-! ## Sequences of calls -/

inductive PodCall where
  | put (record : StoredPodRecord)
  | get (k : PodKey)
  deriving DecidableEq, Repr

inductive PodResult where
  | put (r : Except PodError Unit)
  | found (r : Except PodError (Option StoredPodRecord))

def PodCall.key : PodCall → PodKey
  | .put record => record.key
  | .get k => k

/-- The results of the calls to the in-memory store, in order. -/
def MemoryPodEncryptedStore.results : Packages → List PodCall → List PodResult
  | _, [] => []
  | map, .put record :: cs => .put (put p map record).1 :: results (put p map record).2 cs
  | map, .get k :: cs => .found (get p map k) :: results map cs

/-- The results of the calls to the file store, in order. -/
def FilePodEncryptedStore.results : Packages → List PodCall → List PodResult
  | _, [] => []
  | files, .put record :: cs => .put (put p files record).1 :: results (put p files record).2 cs
  | files, .get k :: cs => .found (get p files k) :: results files cs

/-- Storage-safe ids. -/
def PodKey.Safe (k : PodKey) : Prop := isPackageId k.tenderId ∧ isPackageId k.podId

instance (k : PodKey) : Decidable k.Safe := inferInstanceAs (Decidable (_ ∧ _))

/-- What of a call reaches the packages: a put of an envelope that is not sealed does not. -/
def PodCall.request : PodCall → Option (WriteOnce.Call PodKey StoredPodRecord)
  | .put record => ((assertEnvelopeIntegrity p record.envelope).toOption).map fun _ => .put record.key record
  | .get k => some (.get k)

def podRequests (cs : List PodCall) : List (WriteOnce.Call PodKey StoredPodRecord) := cs.filterMap (PodCall.request p)

/-- A get is answered with a package of the POD version it asks for. -/
def AnswersOwn (c : PodCall) (r : PodResult) : Prop :=
  ∀ k record, c = .get k → r = .found (.ok (some record)) → record.key = k

end Stores

/-! ## The two stores as write-once stores -/

section Agree
variable {p : Platform} {cs : List PodCall} {map files : Packages}

theorem request_put {record : StoredPodRecord} (h : assertEnvelopeIntegrity p record.envelope = .ok ()) :
    PodCall.request p (.put record) = some (.put record.key record) := by
  simp only [PodCall.request, h, Except.toOption, Option.map_some]

/-- How both stores answer a request. -/
def podAnswers : WriteOnce.Answers StoredPodRecord PodResult where
  created _ := .put (.ok ())
  existing _ _ := .put (.error alreadyExists)
  found record := .found (.ok record)

/-- The file of a POD version with storage-safe ids. -/
def fileName (k : PodKey) : JsString := pathOf (maskSeg k.tenderId) (maskSeg k.podId) k

/-- Every package is sealed. -/
def Sealed (p : Platform) (map : Packages) : Prop :=
  ∀ name record, map name = some record → assertEnvelopeIntegrity p record.envelope = .ok ()

theorem sealed_empty (p : Platform) : Sealed p fun _ => none := fun _ _ h => by cases h

theorem Sealed.step {record : StoredPodRecord} (h : Sealed p map) (name : PodKey → JsString)
    (hrecord : assertEnvelopeIntegrity p record.envelope = .ok ()) :
    Sealed p (WriteOnce.step podAnswers name map (.put record.key record)).2 := by
  rw [WriteOnce.step]
  split
  · exact h
  · intro path b hb
    dsimp only at hb
    by_cases hpath : path = name record.key
    · rw [hpath, Function.update_self] at hb
      cases hb
      exact hrecord
    · rw [Function.update_of_ne hpath] at hb
      exact h path b hb

theorem pathFor_eq {k : PodKey} (h : k.Safe) : pathFor k = .ok (fileName k) := by
  simp only [pathFor, safeSeg, require, if_pos h.1, if_pos h.2]
  rfl

namespace MemoryPodEncryptedStore

theorem get_eq {k : PodKey} (h : Sealed p map) : get p map k = .ok (map (storageKey k)) := by
  unfold get
  cases hmap : map (storageKey k) with
  | none => rfl
  | some hit =>
    dsimp only
    rw [h _ hit hmap]
    rfl

theorem put_eq {record : StoredPodRecord} (hrecord : assertEnvelopeIntegrity p record.envelope = .ok ()) :
    (.put (put p map record).1, (put p map record).2) =
      WriteOnce.step podAnswers storageKey map (.put record.key record) := by
  unfold put
  rw [hrecord, WriteOnce.step]
  cases map (storageKey record.key) with
  | none => rfl
  | some existing => rfl

end MemoryPodEncryptedStore

namespace FilePodEncryptedStore

theorem get_eq {k : PodKey} (hk : k.Safe) (h : Sealed p files) : get p files k = .ok (files (fileName k)) := by
  unfold get
  rw [pathFor_eq hk]
  simp only [bind, Except.bind]
  cases hfile : files (fileName k) with
  | none => rfl
  | some record =>
    dsimp only
    rw [h _ record hfile]
    rfl

theorem put_eq {record : StoredPodRecord} (hk : record.key.Safe)
    (hrecord : assertEnvelopeIntegrity p record.envelope = .ok ()) :
    (.put (put p files record).1, (put p files record).2) =
      WriteOnce.step podAnswers fileName files (.put record.key record) := by
  unfold put
  rw [hrecord, pathFor_eq hk, WriteOnce.step]
  dsimp only
  cases files (fileName record.key) with
  | none => rfl
  | some existing => rfl

end FilePodEncryptedStore

/-- The results of the two stores agree when the answers to the requests do. -/
theorem pod_results_eq_iff (hsafe : ∀ c ∈ cs, c.key.Safe) (hfiles : Sealed p files) (hmap : Sealed p map) :
    FilePodEncryptedStore.results p files cs = MemoryPodEncryptedStore.results p map cs ↔
      WriteOnce.answers podAnswers fileName files (podRequests p cs) =
        WriteOnce.answers podAnswers storageKey map (podRequests p cs) := by
  induction cs generalizing files map with
  | nil => exact iff_of_true rfl rfl
  | cons c cs ih =>
    have hc : c.key.Safe := hsafe c List.mem_cons_self
    have hcs : ∀ d ∈ cs, d.key.Safe := fun d hd => hsafe d (List.mem_cons_of_mem _ hd)
    cases c with
    | get k =>
      have hrequests : podRequests p (.get k :: cs) = .get k :: podRequests p cs := rfl
      have hfile := FilePodEncryptedStore.get_eq (show k.Safe from hc) hfiles
      rw [hrequests, FilePodEncryptedStore.results, MemoryPodEncryptedStore.results, WriteOnce.answers, WriteOnce.answers,
        List.cons.injEq, List.cons.injEq, ih hcs hfiles hmap, hfile, MemoryPodEncryptedStore.get_eq hmap]
      rfl
    | put record =>
      cases hrecord : assertEnvelopeIntegrity p record.envelope with
      | error e =>
        have hrequests : podRequests p (.put record :: cs) = podRequests p cs := by
          simp [podRequests, PodCall.request, hrecord, Except.toOption]
        rw [hrequests, FilePodEncryptedStore.results, MemoryPodEncryptedStore.results, FilePodEncryptedStore.put,
          MemoryPodEncryptedStore.put, hrecord, List.cons.injEq, and_iff_right rfl]
        exact ih hcs hfiles hmap
      | ok _ =>
        have hrequests : podRequests p (.put record :: cs) = .put record.key record :: podRequests p cs := by
          simp [podRequests, PodCall.request, hrecord, Except.toOption]
        have hfile : (PodResult.put (FilePodEncryptedStore.put p files record).1, _) = _ :=
          FilePodEncryptedStore.put_eq hc hrecord
        have hmemory : (PodResult.put (MemoryPodEncryptedStore.put p map record).1, _) = _ :=
          MemoryPodEncryptedStore.put_eq hrecord
        have hfiles' := hfiles.step fileName hrecord
        have hmap' := hmap.step storageKey hrecord
        rw [← hfile] at hfiles'
        rw [← hmemory] at hmap'
        rw [hrequests, FilePodEncryptedStore.results, MemoryPodEncryptedStore.results, WriteOnce.answers, WriteOnce.answers,
          ← hfile, ← hmemory, List.cons.injEq, List.cons.injEq, ih hcs hfiles' hmap']

end Agree

/-! ## Names -/

section Names
variable {k k' : PodKey}

/-- What the path of a package keeps of its POD version. -/
def maskedKey (k : PodKey) : PodKey := { k with tenderId := maskSeg k.tenderId, podId := maskSeg k.podId }

theorem mem_packageId {s : JsString} {u : UInt16} (h : isPackageId s) (hu : u ∈ s) :
    isAlphanumeric u ∨ u ∈ js "._@:-" := by
  cases s with
  | nil => cases hu
  | cons v rest =>
    simp only [isPackageId, Bool.and_eq_true, List.all_eq_true] at h
    obtain ⟨⟨hv, -⟩, hrest⟩ := h
    rcases List.mem_cons.mp hu with rfl | hu
    · exact .inl hv
    · simpa [Bool.or_eq_true] using hrest u hu

theorem bar_not_mem {s : JsString} (h : isPackageId s) : 0x7C ∉ s := by
  intro hmem
  have hunit := mem_packageId h hmem
  revert hunit
  decide

theorem slash_not_mem_maskSeg {s : JsString} (h : isPackageId s) : 0x2F ∉ maskSeg s := by
  intro hmem
  obtain ⟨u, hu, heq⟩ := List.mem_map.mp hmem
  have hunit := mem_packageId h hu
  split at heq
  · revert heq
    decide
  · subst heq
    revert hunit
    decide

/-- The in-memory store tells all POD versions with storage-safe ids apart. -/
theorem storageKey_inj (hk : k.Safe) (hk' : k'.Safe) (h : storageKey k = storageKey k') : k = k' := by
  have hbar : js "|" = [0x7C] := by decide
  have hbarV : js "|v" = [0x7C, 0x76] := by decide
  have hdigit : isDigit 0x7C = false := by decide
  simp only [storageKey, hbar, hbarV, List.append_assoc, List.cons_append, List.nil_append] at h
  obtain ⟨h1, h⟩ := (append_cons_inj (bar_not_mem hk.1) (bar_not_mem hk'.1)).mp h
  obtain ⟨h2, h⟩ := (append_cons_inj (not_mem_decimalInt hdigit (by decide)) (not_mem_decimalInt hdigit (by decide))).mp h
  obtain ⟨h3, h⟩ := (append_cons_inj (bar_not_mem hk.2) (bar_not_mem hk'.2)).mp h
  have h2' := decimalInt_inj h2
  have h4' := decimalInt_inj (List.cons.inj h).2
  cases k
  cases k'
  simp_all

/-- **The POD versions that share a file**: those whose ids differ at most in writing `:`, `@` and `_`. -/
theorem fileName_eq_iff (hk : k.Safe) (hk' : k'.Safe) : fileName k = fileName k' ↔ maskedKey k = maskedKey k' := by
  constructor
  · intro h
    have hslash : js "/" = [0x2F] := by decide
    have hslashV : js "/v" = [0x2F, 0x76] := by decide
    have hslashPod : js "/pod-v" = 0x2F :: js "pod-v" := by decide
    have hdigit : isDigit 0x2F = false := by decide
    simp only [fileName, pathOf, hslash, hslashV, hslashPod, List.append_assoc, List.cons_append, List.nil_append] at h
    obtain ⟨h1, h⟩ := (append_cons_inj (slash_not_mem_maskSeg hk.1) (slash_not_mem_maskSeg hk'.1)).mp h
    obtain ⟨h2, h⟩ := (append_cons_inj (not_mem_decimalInt hdigit (by decide))
      (not_mem_decimalInt hdigit (by decide))).mp (List.cons.inj h).2
    obtain ⟨h3, h⟩ := (append_cons_inj (slash_not_mem_maskSeg hk.2) (slash_not_mem_maskSeg hk'.2)).mp h
    have h2' := decimalInt_inj h2
    have h4' := decimalInt_inj (List.append_cancel_right (List.append_cancel_left h))
    simp only [maskedKey, PodKey.mk.injEq]
    exact ⟨h1, h2', h3, h4'⟩
  · intro h
    simp only [maskedKey, PodKey.mk.injEq] at h
    obtain ⟨h1, h2, h3, h4⟩ := h
    rw [fileName, fileName, pathOf, pathOf, h1, h2, h3, h4]

end Names

/-! ## The result -/

section Result
variable {p : Platform} {cs : List PodCall} {map : Packages}

/-- Every package is kept under its own name. -/
def OwnNames (map : Packages) : Prop :=
  ∀ name record, map name = some record → record.key.Safe ∧ storageKey record.key = name

theorem OwnNames.step {record : StoredPodRecord} (h : OwnNames map) (hk : record.key.Safe) :
    OwnNames (WriteOnce.step podAnswers storageKey map (.put record.key record)).2 := by
  rw [WriteOnce.step]
  split
  · exact h
  · intro name b hb
    dsimp only at hb
    by_cases hname : name = storageKey record.key
    · rw [hname, Function.update_self] at hb
      cases hb
      exact ⟨hk, hname.symm⟩
    · rw [Function.update_of_ne hname] at hb
      exact h name b hb

/-- The in-memory store answers with no package of another POD version. -/
theorem memory_answers_own (hsafe : ∀ c ∈ cs, c.key.Safe) (hsealed : Sealed p map) (hown : OwnNames map) :
    ∀ x ∈ cs.zip (MemoryPodEncryptedStore.results p map cs), AnswersOwn x.1 x.2 := by
  induction cs generalizing map with
  | nil => exact fun x hx => by cases hx
  | cons c cs ih =>
    have hc : c.key.Safe := hsafe c List.mem_cons_self
    have hcs : ∀ d ∈ cs, d.key.Safe := fun d hd => hsafe d (List.mem_cons_of_mem _ hd)
    cases c with
    | get k =>
      rw [MemoryPodEncryptedStore.results, List.zip_cons_cons, List.forall_mem_cons]
      refine ⟨?_, ih hcs hsealed hown⟩
      rintro _ record ⟨⟩ hfound
      rw [MemoryPodEncryptedStore.get_eq hsealed] at hfound
      obtain ⟨hkey, hname⟩ := hown _ record (Except.ok.inj (PodResult.found.inj hfound))
      exact storageKey_inj hkey hc hname
    | put record =>
      rw [MemoryPodEncryptedStore.results, List.zip_cons_cons, List.forall_mem_cons]
      refine ⟨fun _ _ hget => (by cases hget), ?_⟩
      cases hrecord : assertEnvelopeIntegrity p record.envelope with
      | error e =>
        rw [MemoryPodEncryptedStore.put, hrecord]
        exact ih hcs hsealed hown
      | ok _ =>
        have hmemory : (PodResult.put (MemoryPodEncryptedStore.put p map record).1, _) = _ :=
          MemoryPodEncryptedStore.put_eq hrecord
        have hsealed' := hsealed.step storageKey hrecord
        have hown' := hown.step hc
        rw [← hmemory] at hsealed' hown'
        exact ih hcs hsealed' hown'

theorem mem_podRequests {r : WriteOnce.Call PodKey StoredPodRecord} (hr : r ∈ podRequests p cs) :
    (∃ c ∈ cs, c.key = r.id) ∧ ∀ i record, r = .put i record → record.key = i := by
  obtain ⟨c, hc, hcr⟩ := List.mem_filterMap.mp hr
  cases c with
  | get k =>
    cases hcr
    exact ⟨⟨_, hc, rfl⟩, fun _ _ h => by cases h⟩
  | put record =>
    obtain ⟨_, -, he⟩ := Option.map_eq_some_iff.mp hcr
    subst he
    refine ⟨⟨_, hc, rfl⟩, ?_⟩
    rintro _ _ ⟨⟩
    rfl

/-- **When the file store refines the in-memory one.** For every sequence of puts and gets over storage-safe ids, on
stores that start empty: the file store gives the results of the in-memory one, and no get is answered with a package of
another POD version, exactly when no call comes to a POD version whose ids differ only in writing `:`, `@` and `_` from
those of an earlier put of a sealed package. -/
theorem file_pods_agree_iff (p : Platform) (cs : List PodCall) (hsafe : ∀ c ∈ cs, c.key.Safe) :
    (FilePodEncryptedStore.results p (fun _ => none) cs = MemoryPodEncryptedStore.results p (fun _ => none) cs ∧
        ∀ x ∈ cs.zip (FilePodEncryptedStore.results p (fun _ => none) cs), AnswersOwn x.1 x.2) ↔
      WriteOnce.Unambiguous maskedKey (podRequests p cs) := by
  have hids : ∀ r ∈ podRequests p cs, r.id.Safe := by
    intro r hr
    obtain ⟨⟨c, hc, hkey⟩, -⟩ := mem_podRequests hr
    exact hkey ▸ hsafe c hc
  have hown : ∀ i record, WriteOnce.Call.put i record ∈ podRequests p cs → record.key = i :=
    fun i record hr => (mem_podRequests hr).2 i record rfl
  have hput : ∀ old record : StoredPodRecord, old.key ≠ record.key →
      podAnswers.existing old record ≠ podAnswers.created record := by
    intro old record _ heq
    cases heq
  have hget : ∀ record : StoredPodRecord, podAnswers.found none ≠ podAnswers.found (some record) := by
    intro record heq
    cases heq
  have hagree : FilePodEncryptedStore.results p (fun _ => none) cs = MemoryPodEncryptedStore.results p (fun _ => none) cs ↔
      WriteOnce.Unambiguous maskedKey (podRequests p cs) := by
    rw [pod_results_eq_iff hsafe (sealed_empty p) (sealed_empty p), eq_comm,
      WriteOnce.answers_eq_iff hput hget (fun _ _ => storageKey_inj) hids hown]
    exact WriteOnce.unambiguous_congr fun c hc d hd => fileName_eq_iff (hids c hc) (hids d hd)
  rw [and_iff_left_of_imp, hagree]
  intro heq
  rw [heq]
  exact memory_answers_own hsafe (sealed_empty p) fun _ _ h => by cases h

end Result

/-! ## Two PODs of one file -/

namespace SharedPodFile

def platform : Platform := asciiPlatform fun _ _ _ => false

def key (podId : JsString) : PodKey := ⟨js "T-1", 1, podId, 1⟩

def fields (podId : JsString) : PodPackageFields where
  podId := podId
  podVersion := 1
  tenderId := js "T-1"
  tenderVersion := 1
  winningBidId := js "bid-1"
  escrowTenderKey := js "k"
  carrierId := js "carrier-1"
  carrierAccountId := js "0.0.6001"
  deliveryTimestamp := js "2026-01-04T00:00:00Z"
  recipientConfirmationPresent := true
  cargoConditionCode := js "GOOD"
  exceptionCodes := []
  submittedAt := js "2026-01-04T01:00:00Z"
  actionId := js "a10"

/-- A sealed package of one byte. -/
def record (podId : JsString) : StoredPodRecord where
  envelope := sealEnvelope platform
    { key podId with
      schemaVersion := POD_STORE_SCHEMA, ciphertextRef := js "pod://T-1", ciphertextHash := js "c",
      plaintextPackageHash := js "p", manifestHash := js "m", encryptionAlg := js "AES-256-GCM", ivB64 := js "AA==",
      authTagB64 := js "AA==", wrappedKey := ⟨js "AES-256-GCM-WRAP-V1", js "AA==", js "AA==", js "AA=="⟩,
      wrapAlg := js "AES-256-GCM-WRAP-V1", aadHash := js "a", ciphertextBytes := 1, plaintextBytes := 1,
      createdAt := js "2026-01-04T01:00:00Z", integrityHash := [], publicFields := fields podId,
      publicManifest := ⟨[], 0, 0⟩ }
  ciphertextB64 := js "AA=="

theorem sealed_record (podId : JsString) : assertEnvelopeIntegrity platform (record podId).envelope = .ok () := by
  have hsealed : integrityOf platform (record podId).envelope = (record podId).envelope.integrityHash := rfl
  simp only [assertEnvelopeIntegrity, check_eq_ok, require_eq_ok]
  exact ⟨rfl, hsealed⟩

theorem key_record (podId : JsString) : (record podId).key = key podId := rfl

theorem safe_key : (key (js "pod:1")).Safe ∧ (key (js "pod@1")).Safe := by decide

/-- Both stores keep the package. -/
theorem put_record (name : PodKey → JsString) :
    (WriteOnce.step podAnswers name (fun _ => none) (.put (key (js "pod:1")) (record (js "pod:1")))) =
      (.put (.ok ()), Function.update (fun _ => none) (name (key (js "pod:1"))) (some (record (js "pod:1")))) := rfl

end SharedPodFile

open SharedPodFile in
/-- A package that is read back. -/
theorem file_pods_agree_own :
    FilePodEncryptedStore.results platform (fun _ => none) [.put (record (js "pod:1")), .get (key (js "pod:1"))] =
      MemoryPodEncryptedStore.results platform (fun _ => none) [.put (record (js "pod:1")), .get (key (js "pod:1"))] := by
  have hsafe : ∀ c ∈ [PodCall.put (record (js "pod:1")), .get (key (js "pod:1"))], c.key.Safe := by
    simp only [List.forall_mem_cons, PodCall.key, key_record, safe_key.1, List.not_mem_nil, false_implies, implies_true,
      and_self]
  refine ((file_pods_agree_iff platform _ hsafe).mpr ?_).1
  have hrequests : podRequests platform [.put (record (js "pod:1")), .get (key (js "pod:1"))] =
      [.put (key (js "pod:1")) (record (js "pod:1")), .get (key (js "pod:1"))] := by
    rw [podRequests, List.filterMap_cons_some (request_put (sealed_record _)), key_record]
    rfl
  rw [hrequests]
  simp [WriteOnce.Unambiguous, WriteOnce.Call.id]

open SharedPodFile in
/-- `pod:1` is put and `pod@1` is asked for: the file store answers with the package of `pod:1`, the in-memory store with
none. -/
theorem colon_and_at_share_a_file :
    (∀ c ∈ [PodCall.put (record (js "pod:1")), .get (key (js "pod@1"))], c.key.Safe) ∧
    FilePodEncryptedStore.results platform (fun _ => none) [.put (record (js "pod:1")), .get (key (js "pod@1"))] =
      [.put (.ok ()), .found (.ok (some (record (js "pod:1"))))] ∧
    MemoryPodEncryptedStore.results platform (fun _ => none) [.put (record (js "pod:1")), .get (key (js "pod@1"))] =
      [.put (.ok ()), .found (.ok none)] ∧
    (record (js "pod:1")).key ≠ key (js "pod@1") := by
  have hsafe : ∀ c ∈ [PodCall.put (record (js "pod:1")), .get (key (js "pod@1"))], c.key.Safe := by
    simp only [List.forall_mem_cons, PodCall.key, key_record, safe_key.1, safe_key.2, List.not_mem_nil, false_implies,
      implies_true, and_self]
  have hfile : (PodResult.put (FilePodEncryptedStore.put platform (fun _ => none) (record (js "pod:1"))).1, _) = _ :=
    (FilePodEncryptedStore.put_eq (show (record (js "pod:1")).key.Safe from safe_key.1) (sealed_record _)).trans
      (put_record fileName)
  have hmemory : (PodResult.put (MemoryPodEncryptedStore.put platform (fun _ => none) (record (js "pod:1"))).1, _) = _ :=
    (MemoryPodEncryptedStore.put_eq (sealed_record _)).trans (put_record storageKey)
  obtain ⟨hfile1, hfile2⟩ := Prod.mk.inj hfile
  obtain ⟨hmemory1, hmemory2⟩ := Prod.mk.inj hmemory
  have hsealed (name : PodKey → JsString) : Sealed platform
      (Function.update (fun _ => none) (name (key (js "pod:1"))) (some (record (js "pod:1")))) :=
    (sealed_empty platform).step name (sealed_record (js "pod:1"))
  have hshared : fileName (key (js "pod:1")) = fileName (key (js "pod@1")) := by decide
  have hapart : storageKey (key (js "pod@1")) ≠ storageKey (key (js "pod:1")) := by decide
  refine ⟨hsafe, ?_, ?_, by rw [key_record]; decide⟩
  · rw [FilePodEncryptedStore.results, FilePodEncryptedStore.results, FilePodEncryptedStore.results, hfile1, hfile2,
      FilePodEncryptedStore.get_eq safe_key.2 (hsealed fileName), hshared, Function.update_self]
  · rw [MemoryPodEncryptedStore.results, MemoryPodEncryptedStore.results, MemoryPodEncryptedStore.results, hmemory1,
      hmemory2, MemoryPodEncryptedStore.get_eq (hsealed storageKey), Function.update_of_ne hapart]

end RouteGuard.Pod
