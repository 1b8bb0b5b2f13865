import RouteGuard.Lifecycle.Money
import RouteGuard.Store.CasStore

/-!
# The history of a stored record only grows

* `AppendOnly` : one version and one action more, everything committed before kept, the binding of the
  tender unchanged;
* `appendOnly_iff` : a checked compare-and-set does this exactly when it brings no own `__proto__` action, the
  one name that the validator does not count;
* `compareAndSet_append_only_iff` : the same for every successful call, after any run of calls.
-/

namespace RouteGuard.Trust
open JsString Json

theorem TrustedRefereeEntry.distinct_toJson (r : TrustedRefereeEntry) : Distinct r.toJson := by
  refine ⟨?_, trivial, trivial, trivial⟩
  show [js "refereeId", js "publicKey"].Nodup
  decide

theorem TrustedRefereeEntry.toJson_inj (a b : TrustedRefereeEntry)
    (h : canonicalize a.toJson = canonicalize b.toJson) : a = b := by
  have hvalues := canonicalize_obj_values (by rfl) a.distinct_toJson b.distinct_toJson h
  simp only [List.map_cons, List.cons.injEq, canonicalize_str_inj] at hvalues
  cases a
  cases b
  simp_all

theorem TrustPolicySnapshot.distinct_toJson (t : TrustPolicySnapshot) : Distinct t.toJson := by
  refine ⟨?_, trivial, trivial, trivial, ?_, trivial, trivial, trivial⟩
  · show [js "schemaVersion", js "shipperPublicKey", js "shipperKeyFingerprint", js "referees",
      js "accessTreasuryAccountId", js "signatureAlgorithm"].Nodup
    decide
  · refine (distinctItems_iff _).mpr ?_
    intro v hv
    obtain ⟨r, -, rfl⟩ := List.mem_map.mp hv
    exact r.distinct_toJson

theorem TrustPolicySnapshot.toJson_inj (a b : TrustPolicySnapshot)
    (h : canonicalize a.toJson = canonicalize b.toJson) : a = b := by
  have hvalues := canonicalize_obj_values (by rfl) a.distinct_toJson b.distinct_toJson h
  simp only [List.map_cons, List.cons.injEq, canonicalize_str_inj] at hvalues
  obtain ⟨-, hkey, hprint, hreferees, htreasury, -⟩ := hvalues
  have hreferees := canonicalize_arr_inj TrustedRefereeEntry.distinct_toJson TrustedRefereeEntry.toJson_inj hreferees
  obtain ⟨⟨_, _, _⟩, _⟩ := a
  obtain ⟨⟨_, _, _⟩, _⟩ := b
  simp_all

end RouteGuard.Trust

namespace RouteGuard.Lifecycle
open JsString Json

theorem LifecycleAccessReceipt.distinct_toJson (r : LifecycleAccessReceipt) : Distinct r.toJson := by
  refine ⟨?_, trivial, trivial, trivial, trivial, trivial, trivial, trivial, trivial, trivial, trivial⟩
  show [js "accessActionType", js "asset", js "amountAtomic", js "resource", js "payTo", js "payerAccount",
    js "paymentTransactionId", js "paymentPayloadHash", js "paidAt"].Nodup
  decide

/-- A receipt and a nullable one with the same text. -/
theorem LifecycleAccessReceipt.toJson_inj (a : LifecycleAccessReceipt) (b : Option LifecycleAccessReceipt)
    (h : canonicalize a.toJson = canonicalize (ofOption LifecycleAccessReceipt.toJson b)) : b = some a := by
  cases b with
  | none => exact ((canonicalize_eq_iff a.distinct_toJson (w := .null) trivial).mp h).elim
  | some b =>
    have hvalues := canonicalize_obj_values (by rfl) a.distinct_toJson b.distinct_toJson h
    simp only [List.map_cons, List.cons.injEq, canonicalize_str_inj, strField] at hvalues
    cases a
    cases b
    simp_all

end RouteGuard.Lifecycle

namespace RouteGuard.Store
open JsString Json Guarded Trust Lifecycle

/-! ## One committed record after another -/

/-- What a successful compare-and-set may do to a record. -/
structure AppendOnly (current r : LifecycleRecord) : Prop where
  version : r.recordVersion = current.recordVersion + 1
  one : PlainObject.AddsOne current.processedActions r.processedActions
  kept : ∀ name a, current.processedActions.lookup name = some a → ∃ a', r.processedActions.lookup name = some a' ∧
    a'.eventPayloadHash = a.eventPayloadHash ∧ a'.resultingState = a.resultingState ∧
    a'.recordVersionAfter = a.recordVersionAfter
  tenderId : r.tenderId = current.tenderId
  tenderVersion : r.tenderVersion = current.tenderVersion
  tenderHash : r.tenderHash = current.tenderHash
  budget : r.maximumFreightBudgetAtomic = current.maximumFreightBudgetAtomic
  trust : r.trust = current.trust
  receipt : ∀ receipt ∈ current.accessReceipt, r.accessReceipt = some receipt

/-- The digests that the immutable-field checks compare do not collide. -/
structure Compared (p : Platform) (current next : LifecycleRecord) : Prop where
  trust : p.Separates current.trust.toJson next.trust.toJson
  receipt : ∀ receipt ∈ current.accessReceipt,
    p.Separates receipt.toJson (ofOption LifecycleAccessReceipt.toJson next.accessReceipt)

section Checked
variable {p : Platform} {t : JsString} {current next : LifecycleRecord} {v : Int}

theorem withStoreVersion_eq (next : LifecycleRecord) (v : Int) :
    withStoreVersion next v = { next with recordVersion := v + 1 } := by
  unfold withStoreVersion
  split
  · next h => rw [← h]
  · rfl

/-- A checked record keeps every committed action. -/
theorem CasChecked.kept (h : CasChecked p t current v next) {name : JsString} {a : ProcessedActionRecord}
    (ha : current.processedActions.lookup name = some a) : ∃ a', next.processedActions.lookup name = some a' ∧
      a'.eventPayloadHash = a.eventPayloadHash ∧ a'.resultingState = a.resultingState ∧
      a'.recordVersionAfter = a.recordVersionAfter := by
  obtain ⟨-, -, -, -, -, -, -, -, hkept⟩ := assertCasPreconditions_eq_ok.mp h.preconditions
  have hmem : (⟨name, a⟩ : Sigma fun _ : JsString => ProcessedActionRecord) ∈ current.processedActions.entries :=
    List.mem_dlookup_iff current.processedActions.nodupKeys |>.mp ha
  obtain ⟨a', ha', hpayload, hversion, hstate⟩ := assertActionKept_eq_ok.mp (hkept _ hmem)
  exact ⟨a', ha', hpayload, hstate, hversion⟩

/-- The copies that the validator counts differ by one property. -/
theorem CasChecked.count (h : CasChecked p t current v next) (hc : Accepted p t current) :
    next.processedActions.rebuilt.own.keys.length = current.processedActions.rebuilt.own.keys.length + 1 := by
  obtain ⟨-, hversion, -⟩ := assertCasPreconditions_eq_ok.mp h.preconditions
  have haccepted := h.accepted
  rw [withStoreVersion_eq] at haccepted
  have hn := haccepted.progress.count
  have hnv := haccepted.progress.versions
  have hcn := hc.progress.count
  have hcv := hc.progress.versions
  simp only [rebuiltActions] at hn hnv hcn hcv
  omega

/-- **A checked record appends exactly one action, unless it brings an own `__proto__`.** -/
theorem CasChecked.appendOnly_iff (h : CasChecked p t current v next) (hc : Accepted p t current)
    (hp : Compared p current next) : AppendOnly current (withStoreVersion next v) ↔
      (protoName ∈ next.processedActions → protoName ∈ current.processedActions) := by
  have hsub : ∀ k ∈ current.processedActions, k ∈ next.processedActions := by
    intro k hk
    obtain ⟨a, ha⟩ := Option.isSome_iff_exists.mp (AList.lookup_isSome.mpr hk)
    obtain ⟨a', ha', -⟩ := h.kept ha
    exact AList.lookup_isSome.mp (by rw [ha']; rfl)
  have hadds := PlainObject.addsOne_iff hsub (h.count hc)
  rw [withStoreVersion_eq]
  constructor
  · exact fun happend => hadds.mp happend.one
  · intro hproto
    obtain ⟨-, hversion, hid, htv, hhash, hbudget, htrust, hreceipt, -⟩ :=
      assertCasPreconditions_eq_ok.mp h.preconditions
    refine ⟨by rw [hversion], hadds.mpr hproto, fun name a ha => h.kept ha, hid.symm, htv.symm, hhash.symm,
      hbudget.symm, ?_, ?_⟩
    · exact (TrustPolicySnapshot.toJson_inj _ _ (hp.trust.eq_of_canonicalSha256 htrust)).symm
    · intro receipt hr
      exact LifecycleAccessReceipt.toJson_inj _ _ ((hp.receipt receipt hr).eq_of_canonicalSha256 (hreceipt receipt hr))

end Checked

/-! ## Every call of a run -/

/-- **After any run of calls, on either adapter: a compare-and-set that succeeds moves its record from version
`v` to the record it answers, append-only exactly when the next record brings no new own `__proto__` action; one
that throws before the file is replaced leaves every record as it was.** -/
theorem compareAndSet_append_only_iff {p : Platform} (hp : p.HexDigest) {kind : AdapterKind}
    {ls : List (StoreCall × FileOutcome)} {s : (kind.adapter p).State} (hrun : (storeSystem p kind).Run ls s)
    (io : FileOutcome) (t : JsString) (v : Int) (next : LifecycleRecord)
    (hcompared : ∀ current, (kind.adapter p).records s t = some current → Compared p current next) :
    let call := ((kind.adapter p).store io).compareAndSet t v next s
    (∀ r, call.1 = .ok r → ∃ current, (kind.adapter p).records s t = some current ∧ current.recordVersion = v ∧
      (kind.adapter p).records call.2 = Function.update ((kind.adapter p).records s) t (some r) ∧
      (AppendOnly current r ↔ (protoName ∈ next.processedActions → protoName ∈ current.processedActions))) ∧
    (∀ e, call.1 = .error e → (kind.adapter p).replacements call.2 = (kind.adapter p).replacements s →
      (kind.adapter p).records call.2 = (kind.adapter p).records s) := by
  intro call
  have houtcome : CasOutcome p (kind.adapter p) s t v next call.1 call.2 := adapter_compareAndSet kind io s hp t v next
  have hacc := allAccepted_of_run hp hrun
  constructor
  · intro r hr
    rw [hr] at houtcome
    obtain ⟨⟨current, hcurrent, hchecked, rfl⟩, hrecords⟩ := houtcome.of_ok
    refine ⟨current, hcurrent, ?_, hrecords, ?_⟩
    · exact (assertCasPreconditions_eq_ok.mp hchecked.preconditions).2.1
    · exact hchecked.appendOnly_iff (hacc t current hcurrent) (hcompared current hcurrent)
  · intro e he hcount
    rw [he] at houtcome
    exact houtcome.of_error hcount

namespace Sample
open Lifecycle.Sample

/-- The memory store after the sample tender is created. -/
def created : Records :=
  ((StoreCall.create input).perform ((AdapterKind.memory.adapter platform).store (.quiet [])) fun _ => none).2

theorem run_created : (storeSystem platform .memory).Run [(.create input, .quiet [])] created := by
  have hstart : (storeSystem platform .memory).Run [] fun _ => none := System.Run.start rfl
  exact hstart.snoc rfl

/-- The same record with the processed action once more under the name `__proto__`. -/
def withProto (r : LifecycleRecord) : LifecycleRecord :=
  { r with processedActions := match r.processedActions.lookup (js "a01") with
      | some a => r.processedActions.insert protoName { a with actionId := protoName }
      | none => r.processedActions }

/-- The memory store commits the funding of the sample tender with the action twice. -/
theorem committed :
    ∃ current ∈ (AdapterKind.memory.adapter platform).records created (js "T-1"), ∃ funded ∈ after (labels.take 1),
      (current.recordVersion = 1 ∧ current.processedActions.keys = []) ∧
      ∃ r ∈ (((AdapterKind.memory.adapter platform).store (.quiet [])).compareAndSet (js "T-1") 1 (withProto funded)
        created).1.toOption, js "a01" ∈ r.processedActions.keys ∧ protoName ∈ r.processedActions.keys := by
  decide +kernel

end Sample

open Lifecycle.Sample Sample in
/-- One call commits two actions. -/
theorem compareAndSet_adds_two_actions :
    ∃ (ls : List (StoreCall × FileOutcome)) (s : (AdapterKind.memory.adapter platform).State)
      (current next r : LifecycleRecord), (storeSystem platform .memory).Run ls s ∧
      (AdapterKind.memory.adapter platform).records s (js "T-1") = some current ∧
      (((AdapterKind.memory.adapter platform).store (.quiet [])).compareAndSet (js "T-1") current.recordVersion next
        s).1 = .ok r ∧
      ¬ PlainObject.AddsOne current.processedActions r.processedActions := by
  obtain ⟨current, hcurrent, funded, -, ⟨hversion, hempty⟩, r, hr, ha, hproto⟩ := committed
  refine ⟨_, created, current, withProto funded, r, run_created, hcurrent, ?_, ?_⟩
  · rw [hversion]
    exact toOption_eq_some.mp hr
  rintro ⟨name, -, hadds⟩
  have honly (k : JsString) (hk : k ∈ r.processedActions.keys) : k = name := by
    refine ((hadds k).mp (AList.mem_keys.mpr hk)).resolve_right ?_
    rw [AList.mem_keys, hempty]
    exact List.not_mem_nil
  have hname := honly _ ha
  have hname' := honly _ hproto
  exact absurd (hname.trans hname'.symm) (by decide)

/-! ### A tender that was funded and activated -/

namespace Sample
open Lifecycle.Sample

/-- The memory store after the first events of the sample tender are committed. -/
def storedAfter : Nat → Records
  | 0 => created
  | n + 1 =>
    match after (labels.take (n + 1)) with
    | some next =>
      ((StoreCall.compareAndSet (js "T-1") (n + 1 : Nat) next).perform
        ((AdapterKind.memory.adapter platform).store (.quiet [])) (storedAfter n)).2
    | none => storedAfter n

theorem run_storedAfter (n : Nat) : ∃ ls, (storeSystem platform .memory).Run ls (storedAfter n) := by
  induction n with
  | zero => exact ⟨_, run_created⟩
  | succ n ih =>
    obtain ⟨ls, hrun⟩ := ih
    cases h : after (labels.take (n + 1)) with
    | none => exact ⟨ls, by simpa only [storedAfter, h] using hrun⟩
    | some next =>
      refine ⟨_, hrun.snoc (l := (.compareAndSet (js "T-1") (n + 1 : Nat) next, .quiet [])) ?_⟩
      simp only [storedAfter, h]
      rfl

/-- The next event is committed over two actions and an access receipt. -/
theorem bidding_committed :
    ∃ current ∈ (AdapterKind.memory.adapter platform).records (storedAfter 2) (js "T-1"),
      ∃ next ∈ after (labels.take 3),
        (current.processedActions.keys.length = 2 ∧ current.accessReceipt.isSome ∧
          current.accessReceipt = next.accessReceipt ∧ current.trust = next.trust ∧
          protoName ∉ next.processedActions.keys) ∧
        ∃ r ∈ (((AdapterKind.memory.adapter platform).store (.quiet [])).compareAndSet (js "T-1") 3 next
          (storedAfter 2)).1.toOption, True := by
  decide +kernel

end Sample

open Lifecycle.Sample Sample in
/-- The start of the bidding is appended. -/
theorem compareAndSet_append_only_bidding :
    ∃ current r : LifecycleRecord,
      (AdapterKind.memory.adapter platform).records (storedAfter 2) (js "T-1") = some current ∧
      current.processedActions.keys.length = 2 ∧ current.accessReceipt.isSome ∧ AppendOnly current r := by
  obtain ⟨current, hcurrent, next, -, ⟨hkeys, hsome, hreceipt, htrust, hproto⟩, r, hr, -⟩ := bidding_committed
  obtain ⟨ls, hrun⟩ := run_storedAfter 2
  have hcompared : ∀ c, (AdapterKind.memory.adapter platform).records (storedAfter 2) (js "T-1") = some c →
      Compared platform c next := by
    intro c hc
    obtain rfl : c = current := Option.some.inj (hc.symm.trans hcurrent)
    refine ⟨fun _ => by rw [htrust], fun receipt hmem _ => ?_⟩
    rw [← hreceipt, hmem]
    rfl
  obtain ⟨current', hcurrent', -, -, hiff⟩ :=
    (compareAndSet_append_only_iff (hexDigest_asciiPlatform _) hrun (.quiet []) (js "T-1") 3 next
      hcompared).1 r (toOption_eq_some.mp hr)
  obtain rfl : current' = current := Option.some.inj (hcurrent'.symm.trans hcurrent)
  exact ⟨current', r, hcurrent', hkeys, hsome, hiff.mpr fun h => absurd (AList.mem_keys.mp h) hproto⟩

end RouteGuard.Store
