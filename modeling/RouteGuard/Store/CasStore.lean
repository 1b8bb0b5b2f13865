import RouteGuard.Store.LifecycleStore

/-!
# A compare-and-set store of records

Both adapters, seen as the same thing: a record for each tender, replaced only by a record that passes the
checks against the one it replaces.

* `Adapter` : the states of an adapter, its operations, and the records it holds;
* `CasChecked` : the checks a committed record has passed;
* `CasOutcome`, `CreateOutcome` : a call leaves the records as they are, or commits one checked record;
* `adapter_create`, `adapter_compareAndSet` : every call of either adapter is one of these.
-/

namespace RouteGuard.Store
open JsString Json Guarded Lifecycle

/-! ## Adapters -/

/-- An adapter with its states and the records it holds in them. -/
structure Adapter where
  State : Type
  store : FileOutcome → LifecycleStore State
  records : State → Records
  /-- The authoritative files replaced so far. -/
  replacements : State → Nat
  start : State → Prop

/-- The memory adapter starts empty. -/
def memoryAdapter (p : Platform) : Adapter where
  State := Records
  store _ := inMemoryLifecycleStore p
  records := id
  replacements _ := 0
  start records := records = fun _ => none

/-- The file adapter starts in any directory; its records are those of the files that read back. -/
def fileAdapter (p : Platform) : Adapter where
  State := Disk
  store := fileLifecycleStore p
  records disk t := (disk.files (.record t)).bind fun content =>
    (FileLifecycleStore.parsePersistedLifecycleEnvelope p t content).toOption
  replacements := Disk.replacements
  start _ := True

inductive AdapterKind where
  | memory | file
  deriving DecidableEq, Repr

def AdapterKind.adapter (p : Platform) : AdapterKind → Adapter
  | .memory => memoryAdapter p
  | .file => fileAdapter p

/-! ## Outcomes of a call -/

/-- Every record held passes the validator. -/
def AllAccepted (p : Platform) (records : Records) : Prop := ∀ t r, records t = some r → Accepted p t r

theorem AllAccepted.update {p : Platform} {records : Records} {t : JsString} {r : LifecycleRecord}
    (h : AllAccepted p records) (hr : Accepted p t r) : AllAccepted p (Function.update records t (some r)) := by
  intro t' r' h'
  by_cases ht : t' = t
  · subst ht
    rw [Function.update_self] at h'
    cases h'
    exact hr
  · rw [Function.update_of_ne ht] at h'
    exact h t' r' h'

/-- The checks of a compare-and-set that replaces `current` by `nextRecord` with the next version. -/
structure CasChecked (p : Platform) (t : JsString) (current : LifecycleRecord) (expectedVersion : Int)
    (nextRecord : LifecycleRecord) : Prop where
  preconditions : assertCasPreconditions p t current expectedVersion nextRecord = .ok ()
  accepted : Accepted p t (withStoreVersion nextRecord expectedVersion)

section Outcomes
variable (p : Platform) (a : Adapter) (s : a.State)

/-- A call that commits nothing throws; one that commits a record of `t` answers it, or throws after the
file was replaced. -/
inductive Outcome (t : JsString) (commits : LifecycleRecord → Prop) :
    Except StoreError LifecycleRecord → a.State → Prop
  | refused {e : StoreError} {s' : a.State} (hrecords : a.records s' = a.records s)
      (hcount : a.replacements s' = a.replacements s) : Outcome t commits (.error e) s'
  | committed {r : LifecycleRecord} {result : Except StoreError LifecycleRecord} {s' : a.State} (hr : commits r)
      (hrecords : a.records s' = Function.update (a.records s) t (some r))
      (hresult : result = .ok r ∨ (∃ e, result = .error e) ∧ a.replacements s' ≠ a.replacements s) :
      Outcome t commits result s'

variable {a s}

/-- An error thrown after the call was done. -/
theorem Outcome.thrown {t : JsString} {commits : LifecycleRecord → Prop}
    {result : Except StoreError LifecycleRecord} {s' : a.State} (h : Outcome a s t commits result s')
    (hcount : ∀ r, result = .ok r → a.replacements s' ≠ a.replacements s) (e : StoreError) :
    Outcome a s t commits (.error e) s' := by
  cases h with
  | refused hrecords hcount' => exact .refused hrecords hcount'
  | committed hr hrecords hresult =>
    refine .committed hr hrecords (.inr ⟨⟨e, rfl⟩, ?_⟩)
    rcases hresult with rfl | hresult
    · exact hcount _ rfl
    · exact hresult.2

/-- A call that answers has committed its answer. -/
theorem Outcome.of_ok {t : JsString} {commits : LifecycleRecord → Prop} {r : LifecycleRecord} {s' : a.State}
    (h : Outcome a s t commits (.ok r) s') :
    commits r ∧ a.records s' = Function.update (a.records s) t (some r) := by
  cases h with
  | committed hr hrecords hresult =>
    rcases hresult with hresult | ⟨⟨e, hresult⟩, -⟩
    · cases hresult
      exact ⟨hr, hrecords⟩
    · cases hresult

/-- A call that throws without a replacement has changed no record. -/
theorem Outcome.of_error {t : JsString} {commits : LifecycleRecord → Prop} {e : StoreError} {s' : a.State}
    (h : Outcome a s t commits (.error e) s') (hcount : a.replacements s' = a.replacements s) :
    a.records s' = a.records s := by
  cases h with
  | refused hrecords _ => exact hrecords
  | committed _ _ hresult =>
    rcases hresult with hresult | ⟨-, hne⟩
    · cases hresult
    · exact absurd hcount hne

variable (a s)

variable {p a s} in
/-- A call keeps the records accepted, if it commits only accepted ones. -/
theorem Outcome.allAccepted {t : JsString} {commits : LifecycleRecord → Prop}
    {result : Except StoreError LifecycleRecord} {s' : a.State} (h : Outcome a s t commits result s')
    (hcommits : ∀ r, commits r → Accepted p t r) (hacc : AllAccepted p (a.records s)) :
    AllAccepted p (a.records s') := by
  cases h with
  | refused hrecords _ =>
    rw [hrecords]
    exact hacc
  | committed hr hrecords _ =>
    rw [hrecords]
    exact hacc.update (hcommits _ hr)

/-- The outcomes of `compareAndSet`. -/
def CasOutcome (t : JsString) (expectedVersion : Int) (nextRecord : LifecycleRecord) :
    Except StoreError LifecycleRecord → a.State → Prop :=
  Outcome a s t fun r => ∃ current, a.records s t = some current ∧
    CasChecked p t current expectedVersion nextRecord ∧ r = withStoreVersion nextRecord expectedVersion

/-- The outcomes of `create`. -/
def CreateOutcome (input : CreateLifecycleInput) : Except StoreError LifecycleRecord → a.State → Prop :=
  Outcome a s input.tenderId fun r => a.records s input.tenderId = none ∧
    createLifecycleRecord p input = .ok r ∧ Accepted p input.tenderId r

end Outcomes

/-! ## What is prepared is checked -/

section Prepared
variable {p : Platform} {t : JsString}

theorem assertActionKept_eq_ok {actions : PlainObject ProcessedActionRecord} {name : JsString}
    {a : ProcessedActionRecord} {u : Unit} :
    assertActionKept actions name a = .ok u ↔ ∃ a', actions.lookup name = some a' ∧
      a'.eventPayloadHash = a.eventPayloadHash ∧ a'.recordVersionAfter = a.recordVersionAfter ∧
      a'.resultingState = a.resultingState := by
  unfold assertActionKept
  cases h : actions.read name with
  | undefined => simp [(PlainObject.read_eq_undefined.mp h).1]
  | inherited => simp [(PlainObject.read_eq_inherited.mp h).1]
  | value a' => simp [PlainObject.read_eq_value.mp h]

/-- Every check of a compare-and-set. -/
theorem assertCasPreconditions_eq_ok {current next : LifecycleRecord} {v : Int} :
    assertCasPreconditions p t current v next = .ok () ↔
    (1 ≤ current.recordVersion ∧ current.recordVersion ≤ MAX_SAFE_INTEGER) ∧ current.recordVersion = v ∧
    current.tenderId = next.tenderId ∧ current.tenderVersion = next.tenderVersion ∧
    current.tenderHash = next.tenderHash ∧ current.maximumFreightBudgetAtomic = next.maximumFreightBudgetAtomic ∧
    canonicalSha256 p.sha256Hex current.trust.toJson = canonicalSha256 p.sha256Hex next.trust.toJson ∧
    (∀ receipt ∈ current.accessReceipt, canonicalSha256 p.sha256Hex receipt.toJson =
      canonicalSha256 p.sha256Hex (ofOption LifecycleAccessReceipt.toJson next.accessReceipt)) ∧
    ∀ e ∈ current.processedActions.entries, assertActionKept next.processedActions e.1 e.2 = .ok () := by
  simp only [assertCasPreconditions, assertRecordVersion, check_eq_ok, require_eq_ok, nullable_eq_ok, each_eq_ok]

theorem preparedRecord_ok {current : Option LifecycleRecord} {v : Int} {next r : LifecycleRecord}
    (h : preparedRecord p t current v next = .ok r) :
    ∃ c, current = some c ∧ CasChecked p t c v next ∧ r = withStoreVersion next v := by
  cases current with
  | none => cases h
  | some c =>
    simp only [preparedRecord, check_eq_ok, assertValidLifecycleRecord_eq_ok] at h
    obtain ⟨hpre, hacc, rfl⟩ := h
    exact ⟨c, rfl, ⟨hpre, hacc⟩, rfl⟩

theorem createdRecord_ok {taken : Bool} {input : CreateLifecycleInput} {r : LifecycleRecord}
    (h : createdRecord p taken input = .ok r) :
    taken = false ∧ createLifecycleRecord p input = .ok r ∧ Accepted p input.tenderId r := by
  simp only [createdRecord, bind_eq_ok, require_eq_ok, exists_const, mapError_eq_ok,
    assertValidLifecycleRecord_eq_ok] at h
  obtain ⟨htaken, r', hr, hacc, rfl⟩ := h
  exact ⟨htaken, hr, hacc⟩

end Prepared

/-! ## The memory adapter -/

section Memory
variable {p : Platform} {records : Records} {t : JsString}

theorem memory_keep {prepared : Except StoreError LifecycleRecord} {commits : LifecycleRecord → Prop}
    (h : ∀ r, prepared = .ok r → commits r) :
    Outcome (memoryAdapter p) records t commits (InMemoryLifecycleStore.keep t prepared records).1
      (InMemoryLifecycleStore.keep t prepared records).2 := by
  cases prepared with
  | ok r => exact .committed (h r rfl) rfl (.inl rfl)
  | error e => exact .refused rfl rfl

theorem memory_compareAndSet (v : Int) (next : LifecycleRecord) :
    CasOutcome p (memoryAdapter p) records t v next (InMemoryLifecycleStore.compareAndSet p t v next records).1
      (InMemoryLifecycleStore.compareAndSet p t v next records).2 := by
  refine memory_keep fun r hr => ?_
  obtain ⟨-, -, hr⟩ := bind_eq_ok.mp hr
  exact preparedRecord_ok hr

theorem memory_create (input : CreateLifecycleInput) :
    CreateOutcome p (memoryAdapter p) records input (InMemoryLifecycleStore.create p input records).1
      (InMemoryLifecycleStore.create p input records).2 := by
  refine memory_keep fun r hr => ?_
  obtain ⟨-, -, hr⟩ := bind_eq_ok.mp hr
  obtain ⟨htaken, hcreate, hacc⟩ := createdRecord_ok hr
  have hfree : records input.tenderId = none := by simpa using htaken
  exact ⟨hfree, hcreate, hacc⟩

theorem memory_get {r : LifecycleRecord} (h : InMemoryLifecycleStore.get p t records = .ok (some r)) :
    records t = some r := by
  unfold InMemoryLifecycleStore.get at h
  split at h
  · cases h
  · next r' hr' =>
    obtain ⟨r'', hr'', heq⟩ := map_eq_ok.mp h
    cases heq
    rw [hr', (assertValidLifecycleRecord_eq_ok.mp hr'').2]

theorem memory_get_accepted {r : LifecycleRecord} (h : records t = some r) (hr : Accepted p t r) :
    InMemoryLifecycleStore.get p t records = .ok (some r) := by
  unfold InMemoryLifecycleStore.get
  rw [h]
  exact map_eq_ok.mpr ⟨r, assertValidLifecycleRecord_eq_ok.mpr ⟨hr, rfl⟩, rfl⟩

end Memory

/-! ## The file adapter -/

section File
variable {p : Platform} {io : FileOutcome} {disk : Disk} {t : JsString}
open FileLifecycleStore

theorem file_readRecord {o : Option LifecycleRecord} (h : readRecord p io t disk = .ok o) :
    (fileAdapter p).records disk t = o := by
  simp only [readRecord, check_eq_ok] at h
  obtain ⟨-, h⟩ := h
  cases hio : io.read with
  | some e =>
    rw [hio] at h
    cases h
  | none =>
    rw [hio] at h
    cases hfile : disk.files (.record t) with
    | none =>
      rw [hfile] at h
      cases h
      simp [fileAdapter, hfile]
    | some content =>
      rw [hfile] at h
      obtain ⟨r, hr, rfl⟩ := map_eq_ok.mp h
      simp [fileAdapter, hfile, hr, Except.toOption]

theorem file_readRecord_quiet (name : JsString) {r : LifecycleRecord}
    (h : (fileAdapter p).records disk t = some r) (hr : Accepted p t r) :
    readRecord p (.quiet name) t disk = .ok (some r) := by
  obtain ⟨content, hfile, hparse⟩ := Option.bind_eq_some_iff.mp h
  simp only [readRecord, check_eq_ok, assertSafeTenderId_eq_ok, FileOutcome.quiet, hfile]
  exact ⟨hr.safeId, map_eq_ok.mpr ⟨r, toOption_eq_some.mp hparse, rfl⟩⟩

/-- The records of the file adapter are those that the validator accepts. -/
theorem file_allAccepted (disk : Disk) : AllAccepted p ((fileAdapter p).records disk) := by
  intro t r h
  obtain ⟨content, -, hparse⟩ := Option.bind_eq_some_iff.mp h
  cases content with
  | unreadable e => cases hparse
  | document envelope => exact (assertValidPersistedLifecycleEnvelope_ok (toOption_eq_some.mp hparse)).1

theorem file_records_write (name : JsString) (content : Option FileContent) :
    (fileAdapter p).records (disk.write (.temporary name) content) = (fileAdapter p).records disk := by
  funext t
  simp [fileAdapter, Disk.write]

theorem Disk.replacements_removeTemporary (disk : Disk) (io : FileOutcome) :
    (disk.removeTemporary io).replacements = disk.replacements := by
  unfold Disk.removeTemporary
  split <;> rfl

theorem file_records_removeTemporary :
    (fileAdapter p).records (disk.removeTemporary io) = (fileAdapter p).records disk := by
  unfold Disk.removeTemporary
  split
  · rfl
  · exact file_records_write _ _

/-- The renamed document is the record of its tender. -/
theorem file_records_rename (hp : p.HexDigest) {r : LifecycleRecord} (hr : Accepted p t r) (name : JsString)
    (h : disk.files (.temporary name) = some (.document (buildPersistedLifecycleEnvelope p r))) :
    (fileAdapter p).records (disk.rename (.temporary name) (.record t)) =
      Function.update ((fileAdapter p).records disk) t (some r) := by
  funext t'
  by_cases ht : t' = t
  · subst ht
    simp [fileAdapter, Disk.rename, h, parsePersistedLifecycleEnvelope,
      assertValidPersistedLifecycleEnvelope_build hp hr, Except.toOption]
  · simp [fileAdapter, Disk.rename, ht]

/-- An atomic write replaces the record of the tender, or fails and leaves every record as it was. -/
theorem file_writeAtomic (hp : p.HexDigest) {r : LifecycleRecord} (hr : Accepted p t r)
    {commits : LifecycleRecord → Prop} (hcommits : commits r) :
    Outcome (fileAdapter p) disk t commits (persist p io t (.ok r) disk).1 (persist p io t (.ok r) disk).2 := by
  simp only [persist, writeAtomic]
  split
  · exact .refused file_records_removeTemporary (Disk.replacements_removeTemporary _ _)
  · split
    · refine .refused (file_records_removeTemporary.trans (file_records_write _ _)) ?_
      exact Disk.replacements_removeTemporary _ _
    · split
      · refine .refused (file_records_removeTemporary.trans (file_records_write _ _)) ?_
        exact Disk.replacements_removeTemporary _ _
      · refine .committed hcommits ?_ ?_
        · rw [file_records_rename hp hr io.temporaryName (by simp [Disk.write]), file_records_write]
        · generalize verifyWritten p io t r _ = result
          cases result with
          | ok _ => exact .inl rfl
          | error e => exact .inr ⟨⟨e, rfl⟩, Nat.succ_ne_self _⟩

/-- A write that succeeds has replaced the file. -/
theorem persist_replaces {prepared : Except StoreError LifecycleRecord} {r : LifecycleRecord}
    (h : (persist p io t prepared disk).1 = .ok r) :
    (persist p io t prepared disk).2.replacements ≠ disk.replacements := by
  cases prepared with
  | error e => cases h
  | ok r' =>
    revert h
    simp only [persist, writeAtomic]
    split
    · exact nofun
    · split
      · exact nofun
      · split
        · exact nofun
        · exact fun _ => Nat.succ_ne_self _

theorem file_persist (hp : p.HexDigest) {prepared : Except StoreError LifecycleRecord}
    {commits : LifecycleRecord → Prop} (h : ∀ r, prepared = .ok r → commits r ∧ Accepted p t r) :
    Outcome (fileAdapter p) disk t commits (persist p io t prepared disk).1 (persist p io t prepared disk).2 := by
  cases prepared with
  | error e => exact .refused rfl rfl
  | ok r => exact file_writeAtomic hp (h r rfl).2 (h r rfl).1

/-- The lock adds the errors of acquiring and of releasing it. -/
theorem file_whileLocked {body : Disk → Except StoreError LifecycleRecord × Disk}
    {commits : LifecycleRecord → Prop} (h : Outcome (fileAdapter p) disk t commits (body disk).1 (body disk).2)
    (hcount : ∀ r, (body disk).1 = .ok r → (body disk).2.replacements ≠ disk.replacements) :
    Outcome (fileAdapter p) disk t commits (whileLocked io body disk).1 (whileLocked io body disk).2 := by
  unfold whileLocked
  split
  · exact .refused rfl rfl
  · split
    · exact h.thrown hcount _
    · exact h

theorem file_compareAndSet (hp : p.HexDigest) (v : Int) (next : LifecycleRecord) :
    CasOutcome p (fileAdapter p) disk t v next (compareAndSet p io t v next disk).1
      (compareAndSet p io t v next disk).2 := by
  unfold compareAndSet
  split
  · exact .refused rfl rfl
  · refine file_whileLocked (file_persist hp fun r hr => ?_) fun r hr => persist_replaces hr
    obtain ⟨current, hread, hr⟩ := bind_eq_ok.mp hr
    obtain ⟨c, rfl, hchecked, rfl⟩ := preparedRecord_ok hr
    exact ⟨⟨c, file_readRecord hread, hchecked, rfl⟩, hchecked.accepted⟩

theorem file_create (hp : p.HexDigest) (input : CreateLifecycleInput) :
    CreateOutcome p (fileAdapter p) disk input (create p io input disk).1 (create p io input disk).2 := by
  unfold create
  split
  · exact .refused rfl rfl
  · refine file_whileLocked (file_persist hp fun r hr => ?_) fun r hr => persist_replaces hr
    obtain ⟨htaken, hcreate, hacc⟩ := createdRecord_ok hr
    have hfree : disk.files (.record input.tenderId) = none := by simpa using htaken
    exact ⟨⟨by simp [fileAdapter, hfree], hcreate, hacc⟩, hacc⟩

end File

/-! ## Either adapter -/

section Either
variable {p : Platform} (kind : AdapterKind) (io : FileOutcome) (s : (kind.adapter p).State)

/-- Every `create` is refused, or commits a created record. -/
theorem adapter_create (hp : p.HexDigest) (input : CreateLifecycleInput) :
    CreateOutcome p (kind.adapter p) s input (((kind.adapter p).store io).create input s).1
      (((kind.adapter p).store io).create input s).2 := by
  cases kind with
  | memory => exact memory_create input
  | file => exact file_create hp input

/-- **Every `compareAndSet` is refused, or commits one checked record.** -/
theorem adapter_compareAndSet (hp : p.HexDigest) (t : JsString) (v : Int) (next : LifecycleRecord) :
    CasOutcome p (kind.adapter p) s t v next (((kind.adapter p).store io).compareAndSet t v next s).1
      (((kind.adapter p).store io).compareAndSet t v next s).2 := by
  cases kind with
  | memory => exact memory_compareAndSet v next
  | file => exact file_compareAndSet hp v next

/-- What `get` answers is held. -/
theorem adapter_get {t : JsString} {r : LifecycleRecord}
    (h : ((kind.adapter p).store io).get t s = .ok (some r)) : (kind.adapter p).records s t = some r := by
  cases kind with
  | memory => exact memory_get h
  | file => exact file_readRecord h

/-- What is held, `get` answers, if nothing fails. -/
theorem adapter_get_quiet (hacc : AllAccepted p ((kind.adapter p).records s)) (name : JsString) {t : JsString}
    {r : LifecycleRecord} (h : (kind.adapter p).records s t = some r) :
    ((kind.adapter p).store (.quiet name)).get t s = .ok (some r) := by
  have hr := hacc t r h
  cases kind with
  | memory => exact memory_get_accepted h hr
  | file => exact file_readRecord_quiet name h hr

end Either

/-! ## Runs of calls -/

/-- A call on the store. -/
inductive StoreCall where
  | create (input : CreateLifecycleInput)
  | compareAndSet (tenderId : JsString) (expectedVersion : Int) (nextRecord : LifecycleRecord)

def StoreCall.perform {σ : Type} (store : LifecycleStore σ) (s : σ) :
    StoreCall → Except StoreError LifecycleRecord × σ
  | .create input => store.create input s
  | .compareAndSet t v next => store.compareAndSet t v next s

/-- Any sequence of calls, with whatever the file system does during each. -/
def storeSystem (p : Platform) (kind : AdapterKind) : System (kind.adapter p).State (StoreCall × FileOutcome) where
  init := (kind.adapter p).start
  step s l s' := (l.1.perform ((kind.adapter p).store l.2) s).2 = s'

theorem start_allAccepted {p : Platform} {kind : AdapterKind} {s : (kind.adapter p).State}
    (h : (kind.adapter p).start s) : AllAccepted p ((kind.adapter p).records s) := by
  cases kind with
  | memory =>
    cases h
    intro t r hr
    cases hr
  | file => exact file_allAccepted s

/-- Every record that a run of calls reaches passes the validator. -/
theorem allAccepted_of_run {p : Platform} (hp : p.HexDigest) {kind : AdapterKind}
    {ls : List (StoreCall × FileOutcome)} {s : (kind.adapter p).State} (h : (storeSystem p kind).Run ls s) :
    AllAccepted p ((kind.adapter p).records s) := by
  refine System.Run.induction (I := fun _ s => AllAccepted p ((kind.adapter p).records s)) ?_ ?_ h
  · exact fun s hs => start_allAccepted hs
  · rintro ls s ⟨call, io⟩ s' _ ih rfl
    cases call with
    | create input => exact (adapter_create kind io s hp input).allAccepted (fun r hr => hr.2.2) ih
    | compareAndSet t v next =>
      refine (adapter_compareAndSet kind io s hp t v next).allAccepted ?_ ih
      rintro r ⟨c, -, hchecked, rfl⟩
      exact hchecked.accepted

end RouteGuard.Store
