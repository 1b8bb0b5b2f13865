import RouteGuard.Lib.Separated
import RouteGuard.Lib.Surrogates
import RouteGuard.Pod.Manifest
import RouteGuard.Store.PersistedRecord

/-!
# The labels of escrow authorizations

The authorization hash of a release or of a dispute is the digest of a label, in which the ids are joined by colons. An id
may contain colons itself.

* `ShipperAcceptance`, `DisputeOpening` : what is authorized, with its label and its hash;
* `EscrowAuthorization.Accepted` : the ids that the system accepts;
* `EscrowAuthorization.Aligned` : the ids of two authorizations have their colons in the same parts;
* `authorizations_of_one_hash` : two authorizations with one hash are the same exactly when they are aligned.
-/

namespace RouteGuard.Pod
open JsString Json Separated TextCodec

/-! ## Labels and hashes -/

structure ShipperAcceptance where
  runOrTenderId : JsString
  podId : JsString
  podVersion : Int
  actionId : JsString
  contentHash : JsString
  deriving DecidableEq, Repr

structure DisputeOpening where
  runOrTenderId : JsString
  podId : JsString
  podVersion : Int
  actionId : JsString
  disputeId : JsString
  deriving DecidableEq, Repr

def ShipperAcceptance.label (a : ShipperAcceptance) : JsString :=
  js "routeguard-v2-pod-accept:" ++ a.runOrTenderId ++ js ":" ++ a.podId ++ js ":v" ++ decimalInt a.podVersion ++
    js ":" ++ a.actionId ++ js ":" ++ a.contentHash

def DisputeOpening.label (d : DisputeOpening) : JsString :=
  js "routeguard-v2-pod-dispute:" ++ d.runOrTenderId ++ js ":" ++ d.podId ++ js ":v" ++ decimalInt d.podVersion ++
    js ":" ++ d.disputeId ++ js ":" ++ d.actionId

section Hashes
variable (sha256Hex : List Nat → JsString)

/-- The digest of the bytes of a label. -/
def authHash (label : JsString) : JsString := js "0x" ++ sha256Hex (Sha256.utf8 label)

def shipperAcceptanceAuthorizationHash (a : ShipperAcceptance) : JsString := authHash sha256Hex a.label

def disputeAuthorizationHash (d : DisputeOpening) : JsString := authHash sha256Hex d.label

end Hashes

/-- What a shipper authorizes. -/
inductive EscrowAuthorization where
  | acceptance (a : ShipperAcceptance)
  | dispute (d : DisputeOpening)
  deriving DecidableEq, Repr

namespace EscrowAuthorization

def label : EscrowAuthorization → JsString
  | .acceptance a => a.label
  | .dispute d => d.label

def hash (sha256Hex : List Nat → JsString) : EscrowAuthorization → JsString
  | .acceptance a => shipperAcceptanceAuthorizationHash sha256Hex a
  | .dispute d => disputeAuthorizationHash sha256Hex d

def isDispute : EscrowAuthorization → Bool
  | .acceptance _ => false
  | .dispute _ => true

/-- Ids and versions as `assertPackageFields` has them, content hashes as packages have them, and dispute ids of up to 128
characters. -/
def Accepted : EscrowAuthorization → Prop
  | .acceptance a =>
    isPackageId a.runOrTenderId ∧ isPackageId a.podId ∧ (1 ≤ a.podVersion ∧ a.podVersion ≤ 0xffff) ∧
      isPackageId a.actionId ∧ Store.isSha256 a.contentHash
  | .dispute d =>
    isPackageId d.runOrTenderId ∧ isPackageId d.podId ∧ (1 ≤ d.podVersion ∧ d.podVersion ≤ 0xffff) ∧
      isPackageId d.actionId ∧ 1 ≤ d.disputeId.length ∧ d.disputeId.length ≤ 128

/-- The parts have equally many colons; two dispute ids also have the same unpaired surrogates, which the encoding does not
tell apart. -/
def Aligned : EscrowAuthorization → EscrowAuthorization → Prop
  | .acceptance a, .acceptance b =>
    a.runOrTenderId.count 0x3A = b.runOrTenderId.count 0x3A ∧ a.podId.count 0x3A = b.podId.count 0x3A
  | .dispute d, .dispute e =>
    d.runOrTenderId.count 0x3A = e.runOrTenderId.count 0x3A ∧ d.podId.count 0x3A = e.podId.count 0x3A ∧
      d.disputeId.count 0x3A = e.disputeId.count 0x3A ∧ unpaired d.disputeId = unpaired e.disputeId
  | _, _ => False

end EscrowAuthorization

/-! ## Parts of a label -/

/-- What both labels have after their kind: the POD of a tender, and what is left. -/
def boundTo (tenderId podId : JsString) (podVersion : Int) (rest : JsString) : JsString :=
  tenderId ++ 0x3A :: (podId ++ 0x3A :: 0x76 :: (decimalInt podVersion ++ 0x3A :: rest))

theorem boundTo_injective {tenderId tenderId' podId podId' : JsString} {podVersion podVersion' : Int}
    {rest rest' : JsString} (htender : tenderId.count 0x3A = tenderId'.count 0x3A)
    (hpod : podId.count 0x3A = podId'.count 0x3A)
    (h : boundTo tenderId podId podVersion rest = boundTo tenderId' podId' podVersion' rest') :
    tenderId = tenderId' ∧ podId = podId' ∧ podVersion = podVersion' ∧ rest = rest' := by
  have hdigit : isDigit 0x3A = false := by decide
  obtain ⟨h1, h⟩ := (append_cons_inj_of_count htender).mp h
  obtain ⟨h2, h⟩ := (append_cons_inj_of_count hpod).mp h
  obtain ⟨h3, h4⟩ := (append_cons_inj (not_mem_decimalInt hdigit (by decide)) (not_mem_decimalInt hdigit (by decide))).mp
    (List.cons.inj h).2
  exact ⟨h1, h2, decimalInt_inj h3, h4⟩

/-- A text without surrogates. -/
def Plain (s : JsString) : Prop := ∀ u ∈ s, isSurrogate u = false

instance (s : JsString) : Decidable (Plain s) := List.decidableBAll (fun u => isSurrogate u = false) s

theorem Plain.append {s t : JsString} (hs : Plain s) (ht : Plain t) : Plain (s ++ t) := by
  intro u hu
  rcases List.mem_append.mp hu with hu | hu
  · exact hs u hu
  · exact ht u hu

theorem Plain.cons {u : UInt16} {s : JsString} (hu : isSurrogate u = false) (hs : Plain s) : Plain (u :: s) := by
  intro v hv
  rcases List.mem_cons.mp hv with rfl | hv
  · exact hu
  · exact hs v hv

theorem Plain.mend {s : JsString} (h : Plain s) : mend s = s := by
  have happend := mend_append_of_plain h []
  rwa [List.append_nil, TextCodec.mend, List.append_nil] at happend

theorem plain_js_accept : Plain (js "routeguard-v2-pod-accept:") := by decide

theorem plain_js_dispute : Plain (js "routeguard-v2-pod-dispute:") := by decide

theorem plain_decimalInt {n : Int} (h : 0 ≤ n) : Plain (decimalInt n) := by
  rw [decimalInt_of_nonneg h]
  intro u hu
  have hdigit := isDigit_iff.mp (List.all_eq_true.mp (all_isDigit_decimal n.toNat) u hu)
  exact isSurrogate_of_lt (by omega)

theorem isSurrogate_packageIdUnit {u : UInt16} (h : isAlphanumeric u ∨ u ∈ js "._@:-") : isSurrogate u = false := by
  rcases h with h | h
  · simp only [isAlphanumeric, Bool.or_eq_true, Bool.and_eq_true, decide_eq_true_eq, UInt16.le_iff_toNat_le] at h
    simp at h
    exact isSurrogate_of_lt (by omega)
  · have hall : Plain (js "._@:-") := by decide
    exact hall u h

theorem plain_packageId {s : JsString} (h : isPackageId s) : Plain s := by
  cases s with
  | nil => cases h
  | cons u rest =>
    simp only [isPackageId, Bool.and_eq_true, List.all_eq_true, Bool.or_eq_true, decide_eq_true_eq] at h
    obtain ⟨⟨hu, -⟩, hrest⟩ := h
    refine Plain.cons (isSurrogate_packageIdUnit (.inl hu)) ?_
    intro v hv
    exact isSurrogate_packageIdUnit (hrest v hv)

theorem plain_sha256 {s : JsString} (h : Store.isSha256 s) : Plain s := by
  simp only [Store.isSha256, Bool.and_eq_true, List.all_eq_true, decide_eq_true_eq, List.isPrefixOf_iff_prefix] at h
  obtain ⟨⟨⟨t, rfl⟩, -⟩, hhex⟩ := h
  have hdrop : (js "sha256:" ++ t).drop 7 = t := List.drop_left' (by decide)
  rw [hdrop] at hhex
  refine Plain.append (by decide) ?_
  intro u hu
  have hlower := hhex u hu
  simp only [isLowerHex, Bool.or_eq_true, Bool.and_eq_true, decide_eq_true_eq, UInt16.le_iff_toNat_le] at hlower
  simp at hlower
  exact isSurrogate_of_lt (by omega)

theorem length_sha256 {s : JsString} (h : Store.isSha256 s) : s.length = 71 := by
  simp only [Store.isSha256, Bool.and_eq_true, decide_eq_true_eq, List.length_drop] at h
  omega

/-- The text that is hashed, in parts. -/
theorem mend_boundTo {tenderId podId : JsString} {podVersion : Int} (htender : Plain tenderId) (hpod : Plain podId)
    (hversion : 0 ≤ podVersion) (rest : JsString) :
    mend (boundTo tenderId podId podVersion rest) = boundTo tenderId podId podVersion (mend rest) := by
  have hcolon : isSurrogate 0x3A = false := by decide
  have hv : isSurrogate 0x76 = false := by decide
  simp only [boundTo, mend_append_of_plain htender, mend_append_of_plain hpod,
    mend_append_of_plain (plain_decimalInt hversion), mend_cons_of_plain hcolon, mend_cons_of_plain hv]

namespace ShipperAcceptance

theorem label_eq (a : ShipperAcceptance) : a.label = js "routeguard-v2-pod-accept:" ++
    boundTo a.runOrTenderId a.podId a.podVersion (a.actionId ++ 0x3A :: a.contentHash) := by
  have hcolon : js ":" = [0x3A] := by decide
  have hv : js ":v" = [0x3A, 0x76] := by decide
  simp only [label, boundTo, hcolon, hv, List.append_assoc, List.cons_append, List.nil_append]

end ShipperAcceptance

namespace DisputeOpening

theorem label_eq (d : DisputeOpening) : d.label = js "routeguard-v2-pod-dispute:" ++
    boundTo d.runOrTenderId d.podId d.podVersion (d.disputeId ++ 0x3A :: d.actionId) := by
  have hcolon : js ":" = [0x3A] := by decide
  have hv : js ":v" = [0x3A, 0x76] := by decide
  simp only [label, boundTo, hcolon, hv, List.append_assoc, List.cons_append, List.nil_append]

end DisputeOpening

namespace EscrowAuthorization

/-- An accepted acceptance is hashed as it is. -/
theorem mend_acceptance {a : ShipperAcceptance} (h : (acceptance a).Accepted) :
    mend a.label = js "routeguard-v2-pod-accept:" ++
      boundTo a.runOrTenderId a.podId a.podVersion (a.actionId ++ 0x3A :: a.contentHash) := by
  obtain ⟨htender, hpod, hversion, haction, hcontent⟩ := h
  have hrest : Plain (a.actionId ++ 0x3A :: a.contentHash) :=
    (plain_packageId haction).append (Plain.cons (by decide) (plain_sha256 hcontent))
  rw [a.label_eq, mend_append_of_plain plain_js_accept,
    mend_boundTo (plain_packageId htender) (plain_packageId hpod) (by omega), hrest.mend]

/-- The dispute id is the only part that may be mended. -/
theorem mend_dispute {d : DisputeOpening} (h : (dispute d).Accepted) :
    mend d.label = js "routeguard-v2-pod-dispute:" ++
      boundTo d.runOrTenderId d.podId d.podVersion (mend d.disputeId ++ 0x3A :: d.actionId) := by
  obtain ⟨htender, hpod, hversion, haction, -⟩ := h
  rw [d.label_eq, mend_append_of_plain plain_js_dispute,
    mend_boundTo (plain_packageId htender) (plain_packageId hpod) (by omega), mend_append_cons (by decide),
    (plain_packageId haction).mend]

theorem eq_of_acceptances {a b : ShipperAcceptance} (ha : (acceptance a).Accepted) (hb : (acceptance b).Accepted)
    (halign : Aligned (.acceptance a) (.acceptance b)) (h : mend a.label = mend b.label) : a = b := by
  rw [mend_acceptance ha, mend_acceptance hb] at h
  obtain ⟨htenders, hpods⟩ := halign
  obtain ⟨-, -, -, -, hca⟩ := ha
  obtain ⟨-, -, -, -, hcb⟩ := hb
  obtain ⟨h1, h2, h3, hrest⟩ := boundTo_injective htenders hpods (List.append_cancel_left h)
  -- content hashes have one length
  have hlength : (0x3A :: a.contentHash).length = (0x3A :: b.contentHash).length := by
    rw [List.length_cons, List.length_cons, length_sha256 hca, length_sha256 hcb]
  obtain ⟨h4, h5⟩ := List.append_inj' hrest hlength
  cases a
  cases b
  simp_all

theorem eq_of_disputes {d e : DisputeOpening} (hd : (dispute d).Accepted) (he : (dispute e).Accepted)
    (halign : Aligned (.dispute d) (.dispute e)) (h : mend d.label = mend e.label) : d = e := by
  rw [mend_dispute hd, mend_dispute he] at h
  obtain ⟨htenders, hpods, hdisputes, hunpaired⟩ := halign
  obtain ⟨h1, h2, h3, hrest⟩ := boundTo_injective htenders hpods (List.append_cancel_left h)
  have hcount : (mend d.disputeId).count 0x3A = (mend e.disputeId).count 0x3A := by
    rw [count_mend (by decide) (by decide), count_mend (by decide) (by decide), hdisputes]
  obtain ⟨hmend, h5⟩ := (append_cons_inj_of_count hcount).mp hrest
  have h4 := eq_of_mend hmend hunpaired
  cases d
  cases e
  simp_all

theorem hash_eq (sha256Hex : List Nat → JsString) (x : EscrowAuthorization) :
    x.hash sha256Hex = authHash sha256Hex x.label := by
  cases x <;> rfl

/-- An acceptance and a dispute are never hashed alike. -/
theorem kinds_differ {a : ShipperAcceptance} {d : DisputeOpening} (ha : (acceptance a).Accepted)
    (hd : (dispute d).Accepted) : mend a.label ≠ mend d.label := by
  intro h
  rw [mend_acceptance ha, mend_dispute hd] at h
  have hkind := congrArg (List.take 19) h
  rw [List.take_append_of_le_length (by decide), List.take_append_of_le_length (by decide)] at hkind
  revert hkind
  decide

end EscrowAuthorization

/-! ## The result -/

/-- **When one hash is one authorization.** Two accepted authorizations whose labels the digest tells apart, and which
have the same hash: they are of the same kind, and they are the same exactly when their ids have their colons in the same
parts, and dispute ids the same unpaired surrogates. -/
theorem authorizations_of_one_hash (sha256Hex : List Nat → JsString) {x y : EscrowAuthorization} (hx : x.Accepted)
    (hy : y.Accepted)
    (hdigest : sha256Hex (Sha256.utf8 x.label) = sha256Hex (Sha256.utf8 y.label) →
      Sha256.utf8 x.label = Sha256.utf8 y.label)
    (h : x.hash sha256Hex = y.hash sha256Hex) :
    x.isDispute = y.isDispute ∧ (x = y ↔ EscrowAuthorization.Aligned x y) := by
  rw [EscrowAuthorization.hash_eq, EscrowAuthorization.hash_eq] at h
  have hlabels : mend x.label = mend y.label := utf8_eq_iff.mp (hdigest (List.append_cancel_left h))
  cases x with
  | acceptance a =>
    cases y with
    | acceptance b =>
      refine ⟨rfl, ?_, ?_⟩
      · intro heq
        cases heq
        exact ⟨rfl, rfl⟩
      · intro halign
        rw [EscrowAuthorization.eq_of_acceptances hx hy halign hlabels]
    | dispute e => exact absurd hlabels (EscrowAuthorization.kinds_differ hx hy)
  | dispute d =>
    cases y with
    | acceptance b => exact absurd hlabels.symm (EscrowAuthorization.kinds_differ hy hx)
    | dispute e =>
      refine ⟨rfl, ?_, ?_⟩
      · intro heq
        cases heq
        exact ⟨rfl, rfl, rfl, rfl⟩
      · intro halign
        rw [EscrowAuthorization.eq_of_disputes hx hy halign hlabels]

/-! ## Two PODs of one tender -/

namespace MovedColon

/-- An acceptance of version 1 for the tender `lane`. -/
def acceptance (podId actionId : JsString) : EscrowAuthorization :=
  .acceptance ⟨js "lane", podId, 1, actionId, js "sha256:" ++ List.replicate 64 0x61⟩

theorem accepted : (acceptance (js "pod") (js "x:v1:y")).Accepted ∧ (acceptance (js "pod:v1:x") (js "y")).Accepted := by
  refine ⟨⟨by decide, by decide, by decide, by decide, by decide⟩, ⟨by decide, by decide, by decide, by decide, by decide⟩⟩

theorem label_eq : (acceptance (js "pod") (js "x:v1:y")).label = (acceptance (js "pod:v1:x") (js "y")).label := by decide

end MovedColon

theorem authorizations_of_one_hash_moved_colon :
    MovedColon.acceptance (js "pod") (js "x:v1:y") = MovedColon.acceptance (js "pod:v1:x") (js "y") ↔
      EscrowAuthorization.Aligned (MovedColon.acceptance (js "pod") (js "x:v1:y"))
        (MovedColon.acceptance (js "pod:v1:x") (js "y")) := by
  refine (authorizations_of_one_hash (fun bytes => Sha256.sha256Hex (bytes.map UInt16.ofNat)) MovedColon.accepted.1
    MovedColon.accepted.2 (fun _ => congrArg _ MovedColon.label_eq) ?_).2
  rw [EscrowAuthorization.hash_eq, EscrowAuthorization.hash_eq, MovedColon.label_eq]

/-- Whatever the digest is, the POD `pod` with the action `x:v1:y` and the POD `pod:v1:x` with the action `y` have one
hash. -/
theorem hash_of_moved_colon :
    (MovedColon.acceptance (js "pod") (js "x:v1:y")).Accepted ∧ (MovedColon.acceptance (js "pod:v1:x") (js "y")).Accepted ∧
      MovedColon.acceptance (js "pod") (js "x:v1:y") ≠ MovedColon.acceptance (js "pod:v1:x") (js "y") ∧
      ∀ sha256Hex : List Nat → JsString, (MovedColon.acceptance (js "pod") (js "x:v1:y")).hash sha256Hex =
        (MovedColon.acceptance (js "pod:v1:x") (js "y")).hash sha256Hex := by
  refine ⟨MovedColon.accepted.1, MovedColon.accepted.2, by decide, fun sha256Hex => ?_⟩
  rw [EscrowAuthorization.hash_eq, EscrowAuthorization.hash_eq, MovedColon.label_eq]

end RouteGuard.Pod
