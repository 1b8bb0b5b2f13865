import RouteGuard.Lib.Rely
import RouteGuard.Store.BidBodyStore

/-!
# Concurrent calls of the filesystem bid-body store

`FileBidBodyStore.put` reads the file of its bid, awaits, and then renames a new file over that name. Other calls run
in between.

* `BodyOp`, `BodyEffect` : a read and a rename, and what they do to the files;
* `putProgram`, `bidBodySystem` : a put as a program, and any number of calls over one directory;
* `Undisturbed` : no rename replaces a body by another one;
* `bodyContract` : what the calls of an undisturbed run rely on and guarantee;
* `first_body_stays` : in an undisturbed run the first body that a put reports is the body of the bid.
-/

namespace RouteGuard.Store
open JsString

/-! ## The calls -/

/-- What a call of the store asks of the directory. A rename puts the whole body under its name at once. -/
inductive BodyOp where
  | read (k : BidKey)
  | rename (path : JsString) (body : StoredBidBody)
  deriving DecidableEq

def BodyOp.Ans : BodyOp → Type
  | .read _ => Except BidBodyError (Option StoredBidBody)
  | .rename .. => Except BidBodyError Unit

abbrev BodyProg := Prog BodyOp BodyOp.Ans (BidBodyCall × BidBodyResult)

abbrev BodyPool := Pool FileBidBodyStore.Files BodyOp BodyOp.Ans (BidBodyCall × BidBodyResult)

abbrev BodyLabel := PoolLabel BidBodyCall BodyOp BodyOp.Ans

section Calls
variable (p : Platform)

/-- A read answers as `get` does, and a rename writes its file. The file system may refuse either. -/
inductive BodyEffect (files : FileBidBodyStore.Files) : (op : BodyOp) → op.Ans → FileBidBodyStore.Files → Prop
  | read (k : BidKey) : BodyEffect files (.read k) (FileBidBodyStore.get p files k) files
  | unread (k : BidKey) (message : JsString) : BodyEffect files (.read k) (.error (.failed message)) files
  | rename (path : JsString) (body : StoredBidBody) :
      BodyEffect files (.rename path body) (.ok ()) (Function.update files path (some body))
  | unnamed (path : JsString) (body : StoredBidBody) (message : JsString) :
      BodyEffect files (.rename path body) (.error (.failed message)) files

/-- What a put does once its read is answered. -/
def putAfterRead (input : PutBidBody) (stored : StoredBidBody) :
    Except BidBodyError (Option StoredBidBody) → BodyProg
  | .error e => .ret (.put input, .stored (.error e))
  | .ok (some existing) => .ret (.put input, .stored (keepExisting existing stored))
  | .ok none =>
    match FileBidBodyStore.filePath input.key with
    | .error e => .ret (.put input, .stored (.error e))
    | .ok path => .call (.rename path stored) fun renamed => .ret (.put input, .stored (renamed.map fun _ => stored))

def putProgram (input : PutBidBody) : BodyProg :=
  match input.body p with
  | .error e => .ret (.put input, .stored (.error e))
  | .ok stored => .call (.read input.key) (putAfterRead input stored)

def bodyCall : BidBodyCall → BodyProg
  | .put input => putProgram p input
  | .get k => .call (.read k) fun found => .ret (.get k, .found found)

/-- Any number of calls of one store, interleaved at their awaits. Some may be lost with their process. The directory
holds bodies that were built. -/
def bidBodySystem : System BodyPool BodyLabel := poolSystem (bodyCall p) (BodyEffect p) (FileBidBodyStore.Genuine p)

/-- The rename finds no file of its name, or the body it brings. -/
def Undisturbed (s : BodyPool) : BodyLabel → Prop
  | .call _ (.rename path body) _ => s.shared path = none ∨ s.shared path = some body
  | _ => True

instance (s : BodyPool) (l : BodyLabel) : Decidable (Undisturbed s l) := by
  cases l with
  | call n op r =>
    cases op with
    | read k => exact isTrue trivial
    | rename path body => exact inferInstanceAs (Decidable (_ ∨ _))
  | start n input => exact isTrue trivial
  | lost n => exact isTrue trivial

/-- How a put of `input` ends when `existing` is the body of the bid: its own body was refused, the file system failed,
or it is compared with `existing`. -/
def EndsAgainst (input : PutBidBody) (existing : StoredBidBody) (r : Except BidBodyError StoredBidBody) : Prop :=
  (∃ e, input.body p = .error e ∧ r = .error e) ∨ (∃ message, r = .error (.failed message)) ∨
    ∃ stored, input.body p = .ok stored ∧ r = keepExisting existing stored

end Calls

/-! ## What an undisturbed run guarantees -/

section Contract
variable {p : Platform} {files : FileBidBodyStore.Files}

/-- A file is never changed. -/
def FilesStay (files files' : FileBidBodyStore.Files) : Prop :=
  ∀ path b, files path = some b → files' path = some b

/-- The calls of an undisturbed run. -/
def BodyKept (p : Platform) (files : FileBidBodyStore.Files) (op : BodyOp) (r : op.Ans)
    (files' : FileBidBodyStore.Files) : Prop :=
  BodyEffect p files op r files' ∧ ∀ path body, op = .rename path body → files path = none ∨ files path = some body

/-- A rename brings a body that was built. -/
def BodyOp.Built (p : Platform) : BodyOp → Prop
  | .read _ => True
  | .rename _ body => buildStored p body.signed body.storedAt = .ok body

theorem FileBidBodyStore.Genuine.update {path : JsString} {b : StoredBidBody} (h : Genuine p files)
    (hb : buildStored p b.signed b.storedAt = .ok b) : Genuine p (Function.update files path (some b)) := by
  intro path' b' hb'
  by_cases hpath : path' = path
  · rw [hpath, Function.update_self] at hb'
    cases hb'
    exact hb
  · rw [Function.update_of_ne hpath] at hb'
    exact h path' b' hb'

theorem filesStay_update {path : JsString} {b : StoredBidBody} (h : files path = none ∨ files path = some b) :
    FilesStay files (Function.update files path (some b)) := by
  intro path' b' hb'
  by_cases hpath : path' = path
  · subst hpath
    rw [Function.update_self]
    rcases h with h | h
    · cases h.symm.trans hb'
    · exact h.symm.trans hb'
  · rwa [Function.update_of_ne hpath]

theorem BodyKept.keeps {files' : FileBidBodyStore.Files} {op : BodyOp} {r : op.Ans}
    (hgenuine : FileBidBodyStore.Genuine p files) (hbuilt : op.Built p) (h : BodyKept p files op r files') :
    FileBidBodyStore.Genuine p files' ∧ FilesStay files files' := by
  obtain ⟨heffect, hfree⟩ := h
  cases heffect with
  | read | unread | unnamed => exact ⟨hgenuine, fun _ _ h => h⟩
  | rename path body => exact ⟨hgenuine.update hbuilt, filesStay_update (hfree path body rfl)⟩

/-- No token is drawn or spent. -/
def bodyContract (p : Platform) : Contract FileBidBodyStore.Files Empty BodyOp BodyOp.Ans where
  effect := BodyKept p
  inv := FileBidBodyStore.Genuine p
  grows := FilesStay
  allowed _ := BodyOp.Built p
  refl _ _ _ h := h
  trans h h' path b hb := h' path b (h path b hb)
  keeps hinv hallowed h := h.keeps hinv hallowed
  gain _ _ := none
  use _ := none
  issued _ := []
  used _ := []
  fresh _ h := by cases h
  issued_effect _ := rfl
  used_effect _ := rfl

/-- A put that has ended without a failure was compared with the file of its bid. -/
def Ended (p : Platform) (files : FileBidBodyStore.Files) : BidBodyCall × BidBodyResult → Prop
  | (.put input, .stored r) =>
    (∃ e, input.body p = .error e ∧ r = .error e) ∨ (∃ message, r = .error (.failed message)) ∨
      ∃ stored existing path, input.body p = .ok stored ∧ FileBidBodyStore.filePath input.key = .ok path ∧
        files path = some existing ∧ r = keepExisting existing stored
  | _ => True

theorem Ended.later {files' : FileBidBodyStore.Files} {a : BidBodyCall × BidBodyResult} (h : Ended p files a)
    (hstay : FilesStay files files') : Ended p files' a := by
  rcases a with ⟨_ | k, _ | r⟩
  · rcases h with h | h | ⟨stored, existing, path, hbody, hpath, hfile, hr⟩
    · exact .inl h
    · exact .inr (.inl h)
    · exact .inr (.inr ⟨stored, existing, path, hbody, hpath, hstay path existing hfile, hr⟩)
  · trivial
  · trivial
  · trivial

end Contract

/-! ## Single calls -/

section Programs
variable {p : Platform} {files : FileBidBodyStore.Files}

/-- A valid bid of the tender version is stored as it is. -/
theorem body_of_valid {input : PutBidBody} (htender : input.signed.bid.tenderId = input.tenderId)
    (hversion : input.signed.bid.tenderVersion = input.tenderVersion) (hvalid : input.signed.bid.valid) :
    ∃ b, input.body p = .ok b := by
  have hparse : parseV2CarrierBid input.signed.bid = some input.signed.bid := if_pos hvalid
  have hbuild : ∃ b, buildStored p input.signed input.storedAt = .ok b := by
    obtain ⟨bidHash, hbid⟩ : ∃ h, v2BidHash p input.signed.bid = some h :=
      ⟨_, by rw [v2BidHash, hparse, Option.map_some]⟩
    obtain ⟨envelopeHash, henvelope⟩ : ∃ h, signedV2BidEnvelopeHash p input.signed = some h :=
      ⟨_, by rw [signedV2BidEnvelopeHash, hparse, Option.map_some]⟩
    refine ⟨⟨bidHash, envelopeHash, input.signed, input.storedAt⟩, ?_⟩
    unfold buildStored
    split
    · next hnone => cases hparse.symm.trans hnone
    · next bid hsome =>
      obtain rfl : input.signed.bid = bid := Option.some.inj (hparse.symm.trans hsome)
      dsimp only
      simp only [hbid, henvelope]
  obtain ⟨b, hb⟩ := hbuild
  exact ⟨b, Guarded.check_eq_ok.mpr ⟨Guarded.require_eq_ok.mpr ⟨htender, hversion⟩, hb⟩⟩

theorem signed_of_body {input : PutBidBody} {b : StoredBidBody} (h : input.body p = .ok b) :
    b.signed = input.signed := by
  rw [PutBidBody.body, assertMatchesTender, Guarded.check_eq_ok] at h
  exact (buildStored_eq_ok h.2).1

theorem keepExisting_self (b : StoredBidBody) : keepExisting b b = .ok b := if_neg fun h => h rfl

theorem keepExisting_eq_ok {existing stored b : StoredBidBody} (h : keepExisting existing stored = .ok b) :
    existing = b := by
  unfold keepExisting at h
  split at h
  · cases h
  · exact Except.ok.inj h

namespace FileBidBodyStore

/-- Over files that were built, a read answers with the file of the bid. -/
theorem get_of_genuine (hgenuine : Genuine p files) (k : BidKey) : get p files k = files <$> filePath k := by
  unfold get
  cases filePath k with
  | error e => rfl
  | ok path =>
    have hread : files <$> (Except.ok path : Except BidBodyError JsString) = .ok (files path) := rfl
    rw [hread]
    simp only [bind, Except.bind]
    cases hfile : files path with
    | none => rfl
    | some body =>
      dsimp only
      rw [hgenuine path body hfile]
      rfl

theorem safeSegment_eq_error {label value : JsString} {e : BidBodyError} (h : safeSegment label value = .error e) :
    ∃ message, e = .failed message := by
  unfold safeSegment at h
  split at h
  · cases h
  · cases h
    exact ⟨_, rfl⟩

theorem filePath_eq_error {k : BidKey} {e : BidBodyError} (h : filePath k = .error e) :
    ∃ message, e = .failed message := by
  rcases Guarded.bind_eq_error.mp h with h | ⟨_, -, h⟩
  · exact safeSegment_eq_error h
  · rcases Guarded.bind_eq_error.mp h with h | ⟨_, -, h⟩
    · exact safeSegment_eq_error h
    · split at h
      · cases h
      · cases h
        exact ⟨_, rfl⟩

end FileBidBodyStore

/-- A read that is answered at all is answered with the file of the bid. -/
theorem BodyEffect.read_cases {files' : FileBidBodyStore.Files} {k : BidKey}
    {r : Except BidBodyError (Option StoredBidBody)} (hgenuine : FileBidBodyStore.Genuine p files)
    (h : BodyEffect p files (.read k) r files') :
    (∃ message, r = .error (.failed message)) ∨
      ∃ path, FileBidBodyStore.filePath k = .ok path ∧ r = .ok (files path) := by
  cases h with
  | unread _ message => exact .inl ⟨message, rfl⟩
  | read =>
    rw [FileBidBodyStore.get_of_genuine hgenuine]
    cases hpath : FileBidBodyStore.filePath k with
    | error e =>
      obtain ⟨message, rfl⟩ := FileBidBodyStore.filePath_eq_error hpath
      exact .inl ⟨message, rfl⟩
    | ok path => exact .inr ⟨path, rfl, rfl⟩

/-- What a call returns when the files are `ℓ.world`. -/
def EndedNow (p : Platform) (ℓ : Local FileBidBodyStore.Files Empty BodyOp BodyOp.Ans)
    (a : BidBodyCall × BidBodyResult) : Prop :=
  Ended p ℓ.world a

theorem putProgram_safe (input : PutBidBody) (ℓ : Local FileBidBodyStore.Files Empty BodyOp BodyOp.Ans) :
    (putProgram p input).Safe (bodyContract p) (EndedNow p) ℓ := by
  unfold putProgram
  cases hbody : input.body p with
  | error e => exact .inl ⟨e, hbody, rfl⟩
  | ok stored =>
    intro files _ hgenuine
    refine ⟨trivial, List.nil_subset _, ?_⟩
    rintro found files' ⟨heffect, -⟩
    have hsame : files' = files := by cases heffect <;> rfl
    subst hsame
    rcases heffect.read_cases hgenuine with ⟨message, rfl⟩ | ⟨path, hpath, rfl⟩
    · exact .inr (.inl ⟨message, rfl⟩)
    · cases hfile : files' path with
      | some existing => exact .inr (.inr ⟨stored, existing, path, hbody, hpath, hfile, rfl⟩)
      | none =>
        simp only [putAfterRead, hpath]
        intro files _ _
        refine ⟨(key_of_body hbody).2, List.nil_subset _, ?_⟩
        rintro renamed files' ⟨heffect, -⟩
        cases heffect with
        | rename =>
          -- the body that was written is the body the put is compared with
          refine .inr (.inr ⟨stored, stored, path, hbody, hpath, Function.update_self .., ?_⟩)
          rw [keepExisting_self]
          rfl
        | unnamed _ _ message => exact .inr (.inl ⟨message, rfl⟩)

theorem bodyCall_safe (c : BidBodyCall) (ℓ : Local FileBidBodyStore.Files Empty BodyOp BodyOp.Ans) :
    (bodyCall p c).Safe (bodyContract p) (EndedNow p) ℓ := by
  cases c with
  | put input => exact putProgram_safe input ℓ
  | get k => exact fun _ _ _ => ⟨trivial, List.nil_subset _, fun _ _ _ => trivial⟩

end Programs

/-! ## Runs -/

section Runs
variable {p : Platform} {ls ls' : List BodyLabel} {s t : BodyPool}

/-- An undisturbed step is a step of the contract. -/
theorem kept_of_undisturbed {l : BodyLabel} (h : ((bidBodySystem p).restrict Undisturbed).step s l t) :
    PoolStep (bodyCall p) (bodyContract p).effect s l t := by
  obtain ⟨hstep, hfree⟩ := h
  cases hstep with
  | start hn => exact .start hn
  | lost => exact .lost
  | @call n op k r files hn heffect =>
    refine .call hn ⟨heffect, ?_⟩
    rintro path body rfl
    exact hfree

theorem run_of_undisturbed (hrun : ((bidBodySystem p).restrict Undisturbed).Run ls s) :
    (poolSystem (bodyCall p) (bodyContract p).effect (FileBidBodyStore.Genuine p)).Run ls s := by
  obtain ⟨s0, hs0, hsteps⟩ := hrun
  refine ⟨s0, hs0, System.Steps.mono (S := (bidBodySystem p).restrict Undisturbed) ?_ hsteps⟩
  intro s l t h
  exact kept_of_undisturbed h

theorem ended_of_run (hrun : ((bidBodySystem p).restrict Undisturbed).Run ls s) :
    FileBidBodyStore.Genuine p s.shared ∧ ∀ n a, s.threads n = some (.ret a) → Ended p s.shared a := by
  have hstart (w : FileBidBodyStore.Files) (hw : FileBidBodyStore.Genuine p w) :
      (bodyContract p).inv w ∧ (bodyContract p).used w = [] := ⟨hw, rfl⟩
  obtain ⟨held, hholds⟩ := Contract.holds_of_run (C := bodyContract p) (Q := EndedNow p)
    (fun ℓ a w hgrows h => Ended.later h hgrows) hstart (fun c w _ => bodyCall_safe c _) (run_of_undisturbed hrun)
  exact ⟨hholds.inv, fun n a ha => hholds.safe n _ ha⟩

/-- A step leaves the file of a bid, and a read finds it. -/
theorem read_of_step {l : BodyLabel} {path : JsString} {k : BidKey} {b : StoredBidBody}
    (hpath : FileBidBodyStore.filePath k = .ok path) (hgenuine : FileBidBodyStore.Genuine p s.shared)
    (hl : ((bidBodySystem p).restrict Undisturbed).step s l t) (hfile : s.shared path = some b) :
    t.shared path = some b ∧ ∀ (m : Nat) (r : BodyOp.Ans (.read k)), l = .call m (.read k) r →
      r = .ok (some b) ∨ ∃ message, r = .error (.failed message) := by
  obtain ⟨hstep, hfree⟩ := hl
  cases hstep with
  | start | lost => exact ⟨hfile, fun _ _ hl => by cases hl⟩
  | @call n op cont r files hn heffect =>
    refine ⟨?_, ?_⟩
    · cases heffect with
      | read | unread | unnamed => exact hfile
      | rename path' body => exact filesStay_update hfree path b hfile
    · rintro m r' hr
      cases hr
      rcases heffect.read_cases hgenuine with hfailed | ⟨path', hpath', rfl⟩
      · exact .inr hfailed
      · rw [hpath] at hpath'
        cases hpath'
        exact .inl (congrArg Except.ok hfile)

/-- No file changes, and what is read in between is what is there. -/
theorem read_of_steps {path : JsString} {k : BidKey} {b : StoredBidBody}
    (hpath : FileBidBodyStore.filePath k = .ok path) (hrun : ((bidBodySystem p).restrict Undisturbed).Run ls s)
    (hsteps : ((bidBodySystem p).restrict Undisturbed).Steps s ls' t) (hfile : s.shared path = some b) :
    t.shared path = some b ∧ ∀ (m : Nat) (r : BodyOp.Ans (.read k)), PoolLabel.call m (.read k) r ∈ ls' →
      r = .ok (some b) ∨ ∃ message, r = .error (.failed message) := by
  induction hsteps with
  | nil => exact ⟨hfile, fun _ _ hl => by cases hl⟩
  | @snoc u v ls' l hpre hl ih =>
    obtain ⟨hu, hreads⟩ := ih
    obtain ⟨hv, hread⟩ := read_of_step hpath (ended_of_run (hrun.append hpre)).1 hl hu
    refine ⟨hv, ?_⟩
    intro m r hmem
    rcases List.mem_append.mp hmem with hmem | hmem
    · exact hreads m r hmem
    · exact hread m r (List.mem_singleton.mp hmem).symm

theorem Ended.endsAgainst {files : FileBidBodyStore.Files} {input : PutBidBody} {path : JsString} {b : StoredBidBody}
    {r : Except BidBodyError StoredBidBody} (hpath : FileBidBodyStore.filePath input.key = .ok path)
    (hfile : files path = some b) (h : Ended p files (.put input, .stored r)) : EndsAgainst p input b r := by
  rcases h with h | h | ⟨stored, existing, path', hbody, hpath', hfile', hr⟩
  · exact .inl h
  · exact .inr (.inl h)
  · rw [hpath] at hpath'
    cases hpath'
    rw [hfile] at hfile'
    cases hfile'
    exact .inr (.inr ⟨stored, hbody, hr⟩)

end Runs

/-! ## The result -/

/-- **The first body stays.** In every run of puts and gets, interleaved and lost as may be, in which no rename replaces a
body by another: once a put has reported a body, every later read of the bid finds that body, and every put of the bid
reports that body, throws a conflict with it, or fails. -/
theorem first_body_stays (p : Platform) {ls ls' : List BodyLabel} {s t : BodyPool}
    (hrun : ((bidBodySystem p).restrict Undisturbed).Run ls s)
    (hsteps : ((bidBodySystem p).restrict Undisturbed).Steps s ls' t) {n : Nat} {input : PutBidBody} {b : StoredBidBody}
    (hput : s.threads n = some (.ret (.put input, .stored (.ok b)))) :
    FileBidBodyStore.get p t.shared input.key = .ok (some b) ∧
      (∀ (m : Nat) (r : BodyOp.Ans (.read input.key)), PoolLabel.call m (.read input.key) r ∈ ls' →
        r = .ok (some b) ∨ ∃ message, r = .error (.failed message)) ∧
      ∀ (m : Nat) (other : PutBidBody) (r : Except BidBodyError StoredBidBody), other.key = input.key →
        t.threads m = some (.ret (.put other, .stored r)) → EndsAgainst p other b r := by
  rcases (ended_of_run hrun).2 n _ hput with ⟨e, -, he⟩ | ⟨message, he⟩ | ⟨stored, existing, path, -, hpath, hfile, he⟩
  · cases he
  · cases he
  · obtain rfl := keepExisting_eq_ok he.symm
    obtain ⟨hgenuine, hended⟩ := ended_of_run (hrun.append hsteps)
    obtain ⟨hfile', hreads⟩ := read_of_steps hpath hrun hsteps hfile
    refine ⟨?_, hreads, ?_⟩
    · rw [FileBidBodyStore.get_of_genuine hgenuine, hpath]
      exact congrArg Except.ok hfile'
    · intro m other r hkey hret
      rw [← hkey] at hpath
      exact (hended m _ hret).endsAgainst hpath hfile'

/-! ## Two puts at once -/

section Races
variable {p : Platform} {input other : PutBidBody} {stored stored' : StoredBidBody} {path : JsString} {s : BodyPool}
  {n : Nat}

/-- Request `n` of `t` stands at `prog`, and the others stand where they stood in `s`. -/
def MovedTo (s t : BodyPool) (n : Nat) (prog : BodyProg) : Prop :=
  t.threads n = some prog ∧ ∀ m, m ≠ n → t.threads m = s.threads m

theorem movedTo_put (s : BodyPool) (files : FileBidBodyStore.Files) (n : Nat) (prog : BodyProg) :
    MovedTo s (s.put files n (some prog)) n prog :=
  ⟨Pool.put_threads_self .., fun _ h => Pool.put_threads_of_ne _ _ _ h⟩

theorem MovedTo.trans {t u : BodyPool} {prog prog' : BodyProg} (h : MovedTo s t n prog) (h' : MovedTo t u n prog') :
    MovedTo s u n prog' :=
  ⟨h'.1, fun m hm => (h'.2 m hm).trans (h.2 m hm)⟩

/-- A put starts and reads. -/
theorem read_first (hbody : input.body p = .ok stored) (hpath : FileBidBodyStore.filePath input.key = .ok path)
    (hgenuine : FileBidBodyStore.Genuine p s.shared) (hn : s.threads n = none) :
    ∃ ls t, ((bidBodySystem p).restrict Undisturbed).Steps s ls t ∧ t.shared = s.shared ∧
      MovedTo s t n (putAfterRead input stored (.ok (s.shared path))) := by
  have hprog : bodyCall p (.put input) = .call (.read input.key) (putAfterRead input stored) := by
    show putProgram p input = _
    rw [putProgram, hbody]
  have hread : FileBidBodyStore.get p s.shared input.key = .ok (s.shared path) := by
    rw [FileBidBodyStore.get_of_genuine hgenuine, hpath]
    rfl
  have hstart : PoolStep (bodyCall p) (BodyEffect p) s (.start n (.put input))
      (s.put s.shared n (some (bodyCall p (.put input)))) := .start hn
  rw [hprog] at hstart
  have hmoved := movedTo_put s s.shared n (.call (.read input.key) (putAfterRead input stored))
  have heffect : BodyEffect p s.shared (.read input.key) (FileBidBodyStore.get p s.shared input.key) s.shared :=
    .read input.key
  rw [hread] at heffect
  have hcall := @PoolStep.call _ _ _ _ _ (bodyCall p) (BodyEffect p) _ _ _ _ _ _ hmoved.1 heffect
  have hsteps : ((bidBodySystem p).restrict Undisturbed).Steps s [.start n (.put input)] _ :=
    .single ⟨hstart, trivial⟩
  exact ⟨_, _, hsteps.snoc ⟨hcall, trivial⟩, rfl, hmoved.trans (movedTo_put ..)⟩

/-- What is left of a put that has found no file. -/
def awaitingRename (input : PutBidBody) (path : JsString) (stored : StoredBidBody) : BodyProg :=
  .call (.rename path stored) fun renamed => .ret (.put input, .stored (renamed.map fun _ => stored))

theorem putAfterRead_none (hpath : FileBidBodyStore.filePath input.key = .ok path) :
    putAfterRead input stored (.ok none) = awaitingRename input path stored := by
  rw [putAfterRead, hpath]
  rfl

/-- A put renames and reports its body. -/
theorem rename_next (hn : s.threads n = some (awaitingRename input path stored)) :
    ∃ l t, (bidBodySystem p).step s l t ∧ (s.shared path = none → Undisturbed s l) ∧
      t.shared = Function.update s.shared path (some stored) ∧
      MovedTo s t n (.ret (.put input, .stored (.ok stored))) :=
  ⟨_, _, .call hn (.rename path stored), .inl, rfl, movedTo_put ..⟩

/-- Any two bodies of one bid can race: both puts report their body, and the first one is gone. -/
theorem race_of_bodies (hbody : input.body p = .ok stored) (hbody' : other.body p = .ok stored')
    (hkey : other.key = input.key) (hpath : FileBidBodyStore.filePath input.key = .ok path) :
    ∃ ls s, (bidBodySystem p).Run ls s ∧ s.threads 0 = some (.ret (.put input, .stored (.ok stored))) ∧
      s.threads 1 = some (.ret (.put other, .stored (.ok stored'))) ∧
      FileBidBodyStore.get p s.shared input.key = .ok (some stored') := by
  have hgenuine : FileBidBodyStore.Genuine p fun _ => none := fun _ _ h => by cases h
  have hpath' : FileBidBodyStore.filePath other.key = .ok path := by rw [hkey, hpath]
  have hunrestrict : ∀ s l t, ((bidBodySystem p).restrict Undisturbed).step s l t → (bidBodySystem p).step s l t :=
    fun _ _ _ h => h.1
  have h0 : (bidBodySystem p).Run [] ⟨fun _ => none, fun _ => none⟩ := System.Run.start ⟨hgenuine, rfl⟩
  obtain ⟨ls1, s1, hsteps1, hs1, hmoved1⟩ :=
    read_first (n := 0) (s := ⟨fun _ => none, fun _ => none⟩) hbody hpath hgenuine rfl
  rw [putAfterRead_none hpath] at hmoved1
  obtain ⟨ls2, s2, hsteps2, hs2, hmoved2⟩ := read_first (n := 1) (s := s1) hbody' hpath' (hs1 ▸ hgenuine)
    (hmoved1.2 1 (by decide))
  rw [hs1, putAfterRead_none hpath'] at hmoved2
  obtain ⟨l3, s3, hstep3, -, hs3, hmoved3⟩ := rename_next (p := p) (n := 0) ((hmoved2.2 0 (by decide)).trans hmoved1.1)
  obtain ⟨l4, s4, hstep4, -, hs4, hmoved4⟩ := rename_next (p := p) (n := 1) ((hmoved3.2 1 (by decide)).trans hmoved2.1)
  have hrun := ((h0.append (hsteps1.mono hunrestrict)).append (hsteps2.mono hunrestrict)).snoc hstep3 |>.snoc hstep4
  refine ⟨_, s4, hrun, (hmoved4.2 0 (by decide)).trans hmoved3.1, hmoved4.1, ?_⟩
  have hgenuine3 : FileBidBodyStore.Genuine p s3.shared := by
    rw [hs3, hs2, hs1]
    exact hgenuine.update (key_of_body hbody).2
  have hgenuine4 : FileBidBodyStore.Genuine p s4.shared := by
    rw [hs4]
    exact hgenuine3.update (key_of_body hbody').2
  rw [FileBidBodyStore.get_of_genuine hgenuine4, hpath]
  show Except.ok (s4.shared path) = _
  rw [hs4, Function.update_self]

/-- One put after the other: the second is compared with the body of the first. -/
theorem puts_in_turn (hbody : input.body p = .ok stored) (hbody' : other.body p = .ok stored')
    (hkey : other.key = input.key) (hpath : FileBidBodyStore.filePath input.key = .ok path) :
    ∃ ls ls' s t, ((bidBodySystem p).restrict Undisturbed).Run ls s ∧
      ((bidBodySystem p).restrict Undisturbed).Steps s ls' t ∧
      s.threads 0 = some (.ret (.put input, .stored (.ok stored))) ∧
      t.threads 1 = some (.ret (.put other, .stored (keepExisting stored stored'))) := by
  have hgenuine : FileBidBodyStore.Genuine p fun _ => none := fun _ _ h => by cases h
  have hpath' : FileBidBodyStore.filePath other.key = .ok path := by rw [hkey, hpath]
  have h0 : ((bidBodySystem p).restrict Undisturbed).Run [] ⟨fun _ => none, fun _ => none⟩ :=
    System.Run.start ⟨hgenuine, rfl⟩
  obtain ⟨ls1, s1, hsteps1, hs1, hmoved1⟩ :=
    read_first (n := 0) (s := ⟨fun _ => none, fun _ => none⟩) hbody hpath hgenuine rfl
  rw [putAfterRead_none hpath] at hmoved1
  obtain ⟨l2, s2, hstep2, hfree, hs2, hmoved2⟩ := rename_next (p := p) hmoved1.1
  have hgenuine2 : FileBidBodyStore.Genuine p s2.shared := by
    rw [hs2, hs1]
    exact hgenuine.update (key_of_body hbody).2
  obtain ⟨ls3, s3, hsteps3, -, hmoved3⟩ := read_first (n := 1) (s := s2) hbody' hpath' hgenuine2
    ((hmoved2.2 1 (by decide)).trans (hmoved1.2 1 (by decide)))
  rw [hs2, Function.update_self] at hmoved3
  exact ⟨_, ls3, s2, s3, (h0.append hsteps1).snoc ⟨hstep2, hfree (by rw [hs1])⟩, hsteps3, hmoved2.1, hmoved3.1⟩

end Races

namespace TwoPuts

def platform : Platform := asciiPlatform fun _ _ _ => false

/-- The bid `b` of `lane` version 1 with the nonce `nonce`. -/
def input (nonce : JsString) : PutBidBody :=
  ⟨js "lane", 1, ⟨{ SharedFile.bid (js "lane") 1 (js "b") with nonce := nonce }, List.replicate 128 0x61⟩,
    js "2026-01-01T00:00:00Z"⟩

theorem key_input (nonce : JsString) : (input nonce).key = ⟨js "lane", 1, js "b"⟩ := rfl

theorem filePath_input (nonce : JsString) :
    FileBidBodyStore.filePath (input nonce).key = .ok (FileBidBodyStore.fileName ⟨js "lane", 1, js "b"⟩) := by
  rw [key_input]
  exact FileBidBodyStore.filePath_eq (by decide)

theorem body_input (nonce : JsString) (h : (input nonce).signed.bid.valid) :
    ∃ b, (input nonce).body platform = .ok b ∧ b.signed.bid.nonce = nonce := by
  obtain ⟨b, hb⟩ := body_of_valid (p := platform) rfl rfl h
  refine ⟨b, hb, ?_⟩
  rw [signed_of_body hb]
  rfl

end TwoPuts

theorem first_body_stays_in_turn :
    ∃ (ls ls' : List BodyLabel) (s t : BodyPool) (b b' : StoredBidBody),
      ((bidBodySystem TwoPuts.platform).restrict Undisturbed).Run ls s ∧
      ((bidBodySystem TwoPuts.platform).restrict Undisturbed).Steps s ls' t ∧
      s.threads 0 = some (.ret (.put (TwoPuts.input (js "n-1")), .stored (.ok b))) ∧
      t.threads 1 = some (.ret (.put (TwoPuts.input (js "n-2")), .stored (keepExisting b b'))) ∧
      FileBidBodyStore.get TwoPuts.platform t.shared (TwoPuts.input (js "n-1")).key = .ok (some b) ∧
      EndsAgainst TwoPuts.platform (TwoPuts.input (js "n-2")) b (keepExisting b b') := by
  obtain ⟨b, hb, -⟩ := TwoPuts.body_input (js "n-1") (by decide)
  obtain ⟨b', hb', -⟩ := TwoPuts.body_input (js "n-2") (by decide)
  have hkey : (TwoPuts.input (js "n-2")).key = (TwoPuts.input (js "n-1")).key := by
    rw [TwoPuts.key_input, TwoPuts.key_input]
  obtain ⟨ls, ls', s, t, hrun, hsteps, hput, hput'⟩ := puts_in_turn hb hb' hkey (TwoPuts.filePath_input _)
  have hstays := first_body_stays TwoPuts.platform hrun hsteps hput
  exact ⟨ls, ls', s, t, b, b', hrun, hsteps, hput, hput', hstays.1, hstays.2.2 1 _ _ hkey hput'⟩

/-- Both puts read before either renames: each reports its own body, and the first one is gone. -/
theorem racing_puts_lose_a_body :
    ∃ (ls : List BodyLabel) (s : BodyPool) (b b' : StoredBidBody),
      (bidBodySystem TwoPuts.platform).Run ls s ∧
      s.threads 0 = some (.ret (.put (TwoPuts.input (js "n-1")), .stored (.ok b))) ∧
      s.threads 1 = some (.ret (.put (TwoPuts.input (js "n-2")), .stored (.ok b'))) ∧
      b ≠ b' ∧ FileBidBodyStore.get TwoPuts.platform s.shared (TwoPuts.input (js "n-1")).key = .ok (some b') := by
  obtain ⟨b, hb, hnonce⟩ := TwoPuts.body_input (js "n-1") (by decide)
  obtain ⟨b', hb', hnonce'⟩ := TwoPuts.body_input (js "n-2") (by decide)
  have hkey : (TwoPuts.input (js "n-2")).key = (TwoPuts.input (js "n-1")).key := by
    rw [TwoPuts.key_input, TwoPuts.key_input]
  obtain ⟨ls, s, hrun, hput, hput', hget⟩ := race_of_bodies hb hb' hkey (TwoPuts.filePath_input _)
  refine ⟨ls, s, b, b', hrun, hput, hput', ?_, hget⟩
  rintro rfl
  have hsame : js "n-1" = js "n-2" := hnonce.symm.trans hnonce'
  revert hsame
  decide

end RouteGuard.Store
