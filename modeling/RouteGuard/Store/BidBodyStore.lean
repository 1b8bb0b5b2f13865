import RouteGuard.Lib.Separated
import RouteGuard.Lib.WriteOnce
import RouteGuard.Schemas.Bid

/-!
# The private bid-body stores

The in-memory store and the filesystem store of private bid bodies. Both keep the first body of a bid; a later one
must be the same body. They differ in the name under which a body is kept: the file name joins its parts with
characters that the parts may contain.

* `InMemoryBidBodyStore`, `FileBidBodyStore` : put and get of the two stores;
* `BidBodyCall.request` : what of a call reaches the store;
* `file_bid_bodies_agree_iff` : the calls to which both stores give the same answers.
-/

namespace RouteGuard.Store
open JsString Json Lifecycle Separated

structure StoredBidBody where
  bidHash : JsString
  signedBidEnvelopeHash : JsString
  signed : SignedV2CarrierBid
  storedAt : JsString
  deriving DecidableEq, Repr

/-- What the stores throw; `schema` is the error of the bid schema. -/
inductive BidBodyError where
  | conflict (bidId : JsString)
  | schema
  | failed (message : JsString)
  deriving DecidableEq, Repr

/-- The argument of `put`. -/
structure PutBidBody where
  tenderId : JsString
  tenderVersion : Int
  signed : SignedV2CarrierBid
  storedAt : JsString
  deriving DecidableEq, Repr

/-- The bid of a tender version. -/
structure BidKey where
  tenderId : JsString
  tenderVersion : Int
  bidId : JsString
  deriving DecidableEq, Repr

/-- The characters of a filesystem-safe identifier: `[a-zA-Z0-9]` first, then also `._-`. -/
def isSafeSegment : JsString → Bool
  | [] => false
  | u :: rest =>
    let alphanumeric (u : UInt16) : Bool := (0x30 ≤ u && u ≤ 0x39) || (0x41 ≤ u && u ≤ 0x5A) || (0x61 ≤ u && u ≤ 0x7A)
    rest.length ≤ 127 && alphanumeric u && rest.all fun v => alphanumeric v || v ∈ js "._-"

def safeSegment (label value : JsString) : Except BidBodyError JsString :=
  if isSafeSegment value then .ok value else .error (.failed (label ++ js " is not a filesystem-safe identifier"))

def bodyKey (k : BidKey) : JsString := k.tenderId ++ js "|" ++ decimalInt k.tenderVersion ++ js "|" ++ k.bidId

section Stores
variable (p : Platform)

def buildStored (signed : SignedV2CarrierBid) (storedAt : JsString) : Except BidBodyError StoredBidBody :=
  match parseV2CarrierBid signed.bid with
  | none => .error .schema
  | some bid =>
    let normalized : SignedV2CarrierBid := ⟨bid, signed.signature⟩
    match v2BidHash p bid, signedV2BidEnvelopeHash p normalized with
    | some bidHash, some signedBidEnvelopeHash => .ok ⟨bidHash, signedBidEnvelopeHash, normalized, storedAt⟩
    | _, _ => .error .schema

def assertMatchesTender (signed : SignedV2CarrierBid) (tenderId : JsString) (tenderVersion : Int) :
    Except BidBodyError Unit :=
  Guarded.require (signed.bid.tenderId = tenderId ∧ signed.bid.tenderVersion = tenderVersion)
    (.failed (js "bid body does not belong to this tender version"))

def PutBidBody.key (input : PutBidBody) : BidKey := ⟨input.tenderId, input.tenderVersion, input.signed.bid.bidId⟩

/-- The body that a put stores, before it looks at the store. -/
def PutBidBody.body (input : PutBidBody) : Except BidBodyError StoredBidBody := do
  assertMatchesTender input.signed input.tenderId input.tenderVersion
  buildStored p input.signed input.storedAt

/-- Both stores treat a body that is there already in the same way. -/
def keepExisting (existing stored : StoredBidBody) : Except BidBodyError StoredBidBody :=
  if existing.signedBidEnvelopeHash ≠ stored.signedBidEnvelopeHash then .error (.conflict stored.signed.bid.bidId)
  else .ok existing

namespace InMemoryBidBodyStore

/-- The map of the store. -/
abbrev Bodies := JsString → Option StoredBidBody

def put (bodies : Bodies) (input : PutBidBody) : Except BidBodyError StoredBidBody × Bodies :=
  match input.body p with
  | .error e => (.error e, bodies)
  | .ok stored =>
    match bodies (bodyKey input.key) with
    | some existing => (keepExisting existing stored, bodies)
    | none => (.ok stored, Function.update bodies (bodyKey input.key) (some stored))

def get (bodies : Bodies) (k : BidKey) : Except BidBodyError (Option StoredBidBody) := .ok (bodies (bodyKey k))

end InMemoryBidBodyStore

namespace FileBidBodyStore

/-- The name of a file under the base directory. -/
def fileName (k : BidKey) : JsString :=
  js "bid-" ++ k.tenderId ++ js "-v" ++ decimalInt k.tenderVersion ++ js "-" ++ k.bidId ++ js ".json"

def filePath (k : BidKey) : Except BidBodyError JsString := do
  let _ ← safeSegment (js "tenderId") k.tenderId
  let _ ← safeSegment (js "bidId") k.bidId
  if 1 ≤ k.tenderVersion ∧ k.tenderVersion ≤ MAX_SAFE_INTEGER then pure (fileName k)
  else .error (.failed (js "tenderVersion must be a positive safe integer"))

/-- The files, each with the body that was written to it. -/
abbrev Files := JsString → Option StoredBidBody

/-- The hashes of a body are computed again when it is read. -/
def get (files : Files) (k : BidKey) : Except BidBodyError (Option StoredBidBody) := do
  let path ← filePath k
  match files path with
  | none => pure none
  | some body => some <$> buildStored p body.signed body.storedAt

def put (files : Files) (input : PutBidBody) : Except BidBodyError StoredBidBody × Files :=
  match input.body p with
  | .error e => (.error e, files)
  | .ok stored =>
    match get p files input.key with
    | .error e => (.error e, files)
    | .ok (some existing) => (keepExisting existing stored, files)
    | .ok none =>
      match filePath input.key with
      | .error e => (.error e, files)
      | .ok path => (.ok stored, Function.update files path (some stored))

end FileBidBodyStore

/-! ## Sequences of calls -/

inductive BidBodyCall where
  | put (input : PutBidBody)
  | get (k : BidKey)
  deriving DecidableEq, Repr

inductive BidBodyResult where
  | stored (r : Except BidBodyError StoredBidBody)
  | found (r : Except BidBodyError (Option StoredBidBody))

def BidBodyCall.key : BidBodyCall → BidKey
  | .put input => input.key
  | .get k => k

/-- The results of the calls to the in-memory store, in order. -/
def InMemoryBidBodyStore.results : Bodies → List BidBodyCall → List BidBodyResult
  | _, [] => []
  | bodies, .put input :: cs => .stored (put p bodies input).1 :: results (put p bodies input).2 cs
  | bodies, .get k :: cs => .found (get bodies k) :: results bodies cs

/-- The results of the calls to the file store, in order. -/
def FileBidBodyStore.results : Files → List BidBodyCall → List BidBodyResult
  | _, [] => []
  | files, .put input :: cs => .stored (put p files input).1 :: results (put p files input).2 cs
  | files, .get k :: cs => .found (get p files k) :: results files cs

/-- Filesystem-safe ids and a positive version. -/
def BidKey.Safe (k : BidKey) : Prop :=
  isSafeSegment k.tenderId ∧ isSafeSegment k.bidId ∧ 1 ≤ k.tenderVersion ∧ k.tenderVersion ≤ MAX_SAFE_INTEGER

instance (k : BidKey) : Decidable k.Safe := inferInstanceAs (Decidable (_ ∧ _))

/-- What of a call reaches the store: a put of a body that does not belong to its tender version, or that the schema
refuses, does not. -/
def BidBodyCall.request : BidBodyCall → Except BidBodyError (WriteOnce.Call BidKey StoredBidBody)
  | .put input => (WriteOnce.Call.put input.key ·) <$> input.body p
  | .get k => .ok (.get k)

/-- The requests of the calls. -/
def requests (cs : List BidBodyCall) : List (WriteOnce.Call BidKey StoredBidBody) :=
  cs.filterMap fun c => (c.request p).toOption

end Stores

/-! ## The two stores as write-once stores -/

section Agree
variable {p : Platform} {cs : List BidBodyCall}

/-- How both stores answer a request. -/
def bidAnswers : WriteOnce.Answers StoredBidBody BidBodyResult where
  created stored := .stored (.ok stored)
  existing old stored := .stored (keepExisting old stored)
  found body := .found (.ok body)

/-- The bid of a stored body. -/
def StoredBidBody.key (b : StoredBidBody) : BidKey :=
  ⟨b.signed.bid.tenderId, b.signed.bid.tenderVersion, b.signed.bid.bidId⟩

theorem buildStored_eq_ok {signed : SignedV2CarrierBid} {storedAt : JsString} {b : StoredBidBody}
    (h : buildStored p signed storedAt = .ok b) : b.signed = signed ∧ b.storedAt = storedAt := by
  unfold buildStored parseV2CarrierBid at h
  split at h
  · cases h
  · next bid hbid =>
    have hsame : signed.bid = bid := Option.some.inj (Option.ite_none_right_eq_some.mp hbid).2
    dsimp only at h
    split at h
    · cases h
      exact ⟨by rw [← hsame], rfl⟩
    · cases h

/-- A body that was built once is built the same again. -/
theorem buildStored_again {signed : SignedV2CarrierBid} {storedAt : JsString} {b : StoredBidBody}
    (h : buildStored p signed storedAt = .ok b) : buildStored p b.signed b.storedAt = .ok b := by
  obtain ⟨hsigned, hstored⟩ := buildStored_eq_ok h
  rw [hsigned, hstored, h]

/-- A body that a put stores is of the bid that the put names. -/
theorem key_of_body {input : PutBidBody} {b : StoredBidBody} (h : input.body p = .ok b) :
    b.key = input.key ∧ buildStored p b.signed b.storedAt = .ok b := by
  simp only [PutBidBody.body, assertMatchesTender, Guarded.check_eq_ok, Guarded.require_eq_ok] at h
  obtain ⟨⟨htender, hversion⟩, hbuild⟩ := h
  refine ⟨?_, buildStored_again hbuild⟩
  rw [StoredBidBody.key, (buildStored_eq_ok hbuild).1, htender, hversion]
  rfl

namespace FileBidBodyStore
variable {files : Files}

/-- Every file holds a body that was built. -/
def Genuine (p : Platform) (files : Files) : Prop :=
  ∀ path b, files path = some b → buildStored p b.signed b.storedAt = .ok b

theorem filePath_eq {k : BidKey} (h : k.Safe) : filePath k = .ok (fileName k) := by
  obtain ⟨htender, hbid, hversion⟩ := h
  simp only [filePath, safeSegment, htender, hbid, hversion, if_true, and_self]
  rfl

theorem get_eq {k : BidKey} (hk : k.Safe) (h : Genuine p files) : get p files k = .ok (files (fileName k)) := by
  unfold get
  rw [filePath_eq hk]
  show (match files (fileName k) with
    | none => pure none
    | some body => some <$> buildStored p body.signed body.storedAt) = Except.ok (files (fileName k))
  cases hfile : files (fileName k) with
  | none => rfl
  | some body =>
    show some <$> buildStored p body.signed body.storedAt = _
    rw [h _ body hfile]
    rfl

/-- A put of a body, as a step of the write-once store. -/
theorem put_eq {input : PutBidBody} {stored : StoredBidBody} (hk : input.key.Safe) (h : Genuine p files)
    (hbody : input.body p = .ok stored) :
    (.stored (put p files input).1, (put p files input).2) =
      WriteOnce.step bidAnswers fileName files (.put input.key stored) := by
  unfold put
  rw [hbody]
  dsimp only
  rw [get_eq hk h, filePath_eq hk, WriteOnce.step]
  cases files (fileName input.key) with
  | none => rfl
  | some existing => rfl

theorem genuine_put {input : PutBidBody} {stored : StoredBidBody} (h : Genuine p files)
    (hbody : input.body p = .ok stored) :
    Genuine p (WriteOnce.step bidAnswers fileName files (.put input.key stored)).2 := by
  rw [WriteOnce.step]
  split
  · exact h
  · intro path b hb
    dsimp only at hb
    by_cases hpath : path = fileName input.key
    · rw [hpath, Function.update_self] at hb
      cases hb
      exact (key_of_body hbody).2
    · rw [Function.update_of_ne hpath] at hb
      exact h path b hb

end FileBidBodyStore

theorem InMemoryBidBodyStore.put_eq {bodies : Bodies} {input : PutBidBody} {stored : StoredBidBody}
    (hbody : input.body p = .ok stored) :
    (.stored (put p bodies input).1, (put p bodies input).2) =
      WriteOnce.step bidAnswers bodyKey bodies (.put input.key stored) := by
  unfold put
  rw [hbody, WriteOnce.step]
  cases bodies (bodyKey input.key) with
  | none => rfl
  | some existing => rfl

/-- The results of the two stores agree when the answers to the requests do. -/
theorem results_eq_iff {files : FileBidBodyStore.Files} {bodies : InMemoryBidBodyStore.Bodies}
    (hsafe : ∀ c ∈ cs, c.key.Safe) (hfiles : FileBidBodyStore.Genuine p files) :
    InMemoryBidBodyStore.results p bodies cs = FileBidBodyStore.results p files cs ↔
      WriteOnce.answers bidAnswers bodyKey bodies (requests p cs) =
        WriteOnce.answers bidAnswers FileBidBodyStore.fileName files (requests p cs) := by
  induction cs generalizing files bodies with
  | nil => exact iff_of_true rfl rfl
  | cons c cs ih =>
    have hc : c.key.Safe := hsafe c List.mem_cons_self
    have hcs : ∀ d ∈ cs, d.key.Safe := fun d hd => hsafe d (List.mem_cons_of_mem _ hd)
    cases c with
    | get k =>
      have hrequests : requests p (.get k :: cs) = .get k :: requests p cs := rfl
      have hget : FileBidBodyStore.get p files k = .ok (files (FileBidBodyStore.fileName k)) :=
        FileBidBodyStore.get_eq hc hfiles
      rw [hrequests, InMemoryBidBodyStore.results, FileBidBodyStore.results, WriteOnce.answers, WriteOnce.answers,
        List.cons.injEq, List.cons.injEq, ih hcs hfiles, hget]
      rfl
    | put input =>
      cases hbody : input.body p with
      | error e =>
        have hrequests : requests p (.put input :: cs) = requests p cs := by
          simp [requests, BidBodyCall.request, hbody, Except.toOption]
        rw [hrequests, InMemoryBidBodyStore.results, FileBidBodyStore.results, InMemoryBidBodyStore.put,
          FileBidBodyStore.put, hbody, List.cons.injEq, and_iff_right rfl]
        exact ih hcs hfiles
      | ok stored =>
        have hrequests : requests p (.put input :: cs) = .put input.key stored :: requests p cs := by
          simp [requests, BidBodyCall.request, hbody, Except.toOption]
        have hmemory : (BidBodyResult.stored (InMemoryBidBodyStore.put p bodies input).1, _) = _ :=
          InMemoryBidBodyStore.put_eq hbody
        have hfile := FileBidBodyStore.put_eq hc hfiles hbody
        have hgenuine := FileBidBodyStore.genuine_put hfiles hbody
        rw [hrequests, InMemoryBidBodyStore.results, FileBidBodyStore.results, WriteOnce.answers, WriteOnce.answers,
          ← hmemory, ← hfile, List.cons.injEq, List.cons.injEq]
        rw [← hfile] at hgenuine
        rw [ih hcs hgenuine]

end Agree

/-! ## Names -/

section Names

theorem not_mem_safe {s : JsString} (h : isSafeSegment s) : 0x7C ∉ s := by
  cases s with
  | nil => cases h
  | cons u rest =>
    simp only [isSafeSegment, Bool.and_eq_true, List.all_eq_true] at h
    obtain ⟨⟨-, hu⟩, hrest⟩ := h
    intro hmem
    rcases List.mem_cons.mp hmem with rfl | hmem
    · revert hu
      decide
    · have := hrest _ hmem
      revert this
      decide

/-- The in-memory store tells all safe ids apart. -/
theorem bodyKey_inj {k k' : BidKey} (hk : k.Safe) (hk' : k'.Safe) (h : bodyKey k = bodyKey k') : k = k' := by
  obtain ⟨htender, hbid, hversion, -⟩ := hk
  obtain ⟨htender', hbid', hversion', -⟩ := hk'
  have hbar : js "|" = [0x7C] := by decide
  simp only [bodyKey, hbar, List.append_assoc, List.singleton_append] at h
  obtain ⟨h1, h⟩ := (append_cons_inj (not_mem_safe htender) (not_mem_safe htender')).mp h
  have hbarDigit : isDigit 0x7C = false := by decide
  obtain ⟨h2, h3⟩ := (append_cons_inj (not_mem_decimalInt hbarDigit (by decide))
    (not_mem_decimalInt hbarDigit (by decide))).mp h
  have h2' := decimalInt_inj h2
  cases k
  cases k'
  simp_all

end Names

/-! ## The result -/

/-- **When the file store answers like the in-memory store.** For every sequence of puts and gets over filesystem-safe
ids and positive versions, on stores that start empty: the two stores give the same results exactly when no call comes
to a file name that an earlier put of another bid has taken. -/
theorem file_bid_bodies_agree_iff (p : Platform) (cs : List BidBodyCall) (hsafe : ∀ c ∈ cs, c.key.Safe) :
    FileBidBodyStore.results p (fun _ => none) cs = InMemoryBidBodyStore.results p (fun _ => none) cs ↔
      WriteOnce.Unambiguous FileBidBodyStore.fileName (requests p cs) := by
  have hgenuine : FileBidBodyStore.Genuine p fun _ => none := fun _ _ h => by cases h
  rw [eq_comm, results_eq_iff hsafe hgenuine]
  have hmem : ∀ r ∈ requests p cs, ∃ c ∈ cs, c.request p = .ok r := by
    intro r hr
    obtain ⟨c, hc, hcr⟩ := List.mem_filterMap.mp hr
    exact ⟨c, hc, Guarded.toOption_eq_some.mp hcr⟩
  have hput : ∀ i b, WriteOnce.Call.put i b ∈ requests p cs → ∃ input, .put input ∈ cs ∧ input.key = i ∧ b.key = i := by
    intro i b hr
    obtain ⟨c, hc, hcr⟩ := hmem _ hr
    cases c with
    | get k => cases hcr
    | put input =>
      obtain ⟨b', hb', he⟩ := Guarded.map_eq_ok.mp hcr
      cases he
      exact ⟨input, hc, rfl, (key_of_body hb').1⟩
  refine WriteOnce.answers_eq_iff ?_ ?_ (fun _ _ => bodyKey_inj) ?_ (fun i b hr => (hput i b hr).choose_spec.2.2)
  · intro old stored hne heq
    have hkeep : keepExisting old stored = .ok stored := BidBodyResult.stored.inj heq
    unfold keepExisting at hkeep
    split at hkeep
    · cases hkeep
    · cases hkeep
      exact hne rfl
  · intro b heq
    cases heq
  · intro r hr
    cases r with
    | put i b =>
      obtain ⟨input, hinput, hkey, -⟩ := hput i b hr
      exact hkey ▸ hsafe _ hinput
    | get k =>
      obtain ⟨c, hc, hcr⟩ := hmem _ hr
      cases c with
      | get k' =>
        cases hcr
        exact hsafe _ hc
      | put input =>
        obtain ⟨b', -, he⟩ := Guarded.map_eq_ok.mp hcr
        cases he

/-! ## Two bids of one file -/

namespace SharedFile

def bid (tenderId : JsString) (tenderVersion : Int) (bidId : JsString) : V2CarrierBid where
  bidId := bidId
  tenderId := tenderId
  tenderVersion := tenderVersion
  carrierId := js "carrier-1"
  carrierAccountId := js "0.0.6001"
  freightAmountAtomic := js "4000000"
  equipment := js "REEFER"
  proposedPickupAt := js "2026-01-03T00:00:00Z"
  estimatedDelivery := js "2026-01-04T00:00:00Z"
  capacityConfirmed := true
  bidValidUntil := js "2026-01-02T00:00:00Z"
  commitmentSalt := List.replicate 64 0x61
  nonce := js "n-1"
  version := 1

/-- A put of the bid, with a signature. -/
def put (tenderId : JsString) (tenderVersion : Int) (bidId : JsString) : BidBodyCall :=
  .put ⟨tenderId, tenderVersion, ⟨bid tenderId tenderVersion bidId, List.replicate 128 0x61⟩, js "2026-01-01T00:00:00Z"⟩

/-- The bid `b-v2-c` of `lane` version 1 is stored, the bid `c` of `lane-v1-b` version 2 is asked for. -/
def calls : List BidBodyCall := [put (js "lane") 1 (js "b-v2-c"), .get ⟨js "lane-v1-b", 2, js "c"⟩]

end SharedFile

/-- A safe sequence of calls to which the stores answer differently: the file store returns the body of another bid. -/
theorem shared_file_disagrees :
    (∀ c ∈ SharedFile.calls, c.key.Safe) ∧
      FileBidBodyStore.results (asciiPlatform fun _ _ _ => false) (fun _ => none) SharedFile.calls ≠
        InMemoryBidBodyStore.results (asciiPlatform fun _ _ _ => false) (fun _ => none) SharedFile.calls := by
  refine ⟨by decide, fun h => ?_⟩
  have hget := (List.cons.inj (List.cons.inj h).2).1
  cases hget

theorem file_bid_bodies_agree_on_plain_ids :
    FileBidBodyStore.results (asciiPlatform fun _ _ _ => false) (fun _ => none)
        [SharedFile.put (js "lane") 1 (js "b"), .get ⟨js "lane", 2, js "b"⟩] =
      InMemoryBidBodyStore.results (asciiPlatform fun _ _ _ => false) (fun _ => none)
        [SharedFile.put (js "lane") 1 (js "b"), .get ⟨js "lane", 2, js "b"⟩] := by
  refine (file_bid_bodies_agree_iff _ _ (by decide)).mpr ?_
  have hnames : FileBidBodyStore.fileName ⟨js "lane", 1, js "b"⟩ ≠ FileBidBodyStore.fileName ⟨js "lane", 2, js "b"⟩ := by
    decide
  have hrequests : ∃ body, requests (asciiPlatform fun _ _ _ => false)
      [SharedFile.put (js "lane") 1 (js "b"), .get ⟨js "lane", 2, js "b"⟩] =
        [.put ⟨js "lane", 1, js "b"⟩ body, .get ⟨js "lane", 2, js "b"⟩] := ⟨_, rfl⟩
  obtain ⟨body, hrequests⟩ := hrequests
  rw [hrequests]
  simp [WriteOnce.Unambiguous, WriteOnce.Call.id, WriteOnce.Call.isPut, hnames]

end RouteGuard.Store
