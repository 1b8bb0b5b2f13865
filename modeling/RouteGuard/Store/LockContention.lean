import RouteGuard.Store.LockExclusion

/-!
# Contention for the file lock

Processes that only acquire and release, none of them lost. A call of `acquireFileLock` fails closed with
`LOCK_CORRUPT` when the lock is ambiguous to it, and only then: the file it reads was created and its metadata is
still to be written, or the file it moved aside is not the one it had inspected.

* `Contended` : the invariant; every file without metadata has a creator about to write them;
* `ReadsUnwritten`, `MovedAnother` : the two ambiguous cases;
* `lock_corrupt_iff` : they are exactly the calls that end in `LOCK_CORRUPT`.
-/

namespace RouteGuard.Store
open JsString

/-- No process is lost, and tokens are UUIDs. -/
def LockLabel.alive : LockLabel → Bool
  | .lost _ => false
  | .enter _ token => token.length = 36
  | _ => true

/-- Host names and tender ids have the lengths that the metadata of a lock allow. -/
structure LockEnv.Valid (env : LockEnv) : Prop where
  host : ∀ p, 1 ≤ (env.host p).length ∧ (env.host p).length ≤ 256
  tenderId : 1 ≤ env.tenderId.length ∧ env.tenderId.length ≤ 128

/-- Any number of processes, none of them lost. -/
def livingLockSystem (env : LockEnv) : System LockWorld LockLabel :=
  (lockSystem env).restrict fun _ l => l.alive = true

/-- The lock that a process is about to reclaim, or just moved aside. -/
def Phase.inspected : Phase → Option LockMetadata
  | reclaiming _ _ i | checking _ _ i => some i
  | _ => none

/-- A file at the lock path or beside it. -/
def LockWorld.HasFile (s : LockWorld) (f : LockFile) : Prop := s.lock = some f ∨ ∃ t, s.aside t = some f

/-- The call of the token has created its file and written it. -/
def Spent (s : LockWorld) (t : JsString) : Prop :=
  t ∈ s.issued ∧ ∀ q, (s.phase q).token = some t → (s.phase q).heldSince.isSome

/-- The invariant of processes that are never lost. -/
structure Contended (s : LockWorld) : Prop where
  issued : ∀ p t, (s.phase p).token = some t → t ∈ s.issued ∧ t.length = 36
  distinct : ∀ p q t, (s.phase p).token = some t → (s.phase q).token = some t → p = q
  creators : ∀ f, s.HasFile f → f.creator ∈ s.issued
  unborn : ∀ p t f, (s.phase p).token = some t → (s.phase p).owner = none → s.HasFile f → f.creator ≠ t
  complete : ∀ f m, s.HasFile f → f.content = some m → parseLockMetadata (some m) = some m ∧ m.token = f.creator
  awaited : ∀ f, s.HasFile f → f.content = none → ∃ p now, s.phase p = .writing f.creator now
  unwritten : ∀ p now f, s.HasFile f → s.phase p = .writing f.creator now → f.content = none
  inspected : ∀ p i, (s.phase p).inspected = some i → Spent s i.token
  moved : ∀ p t deadline i, s.phase p = .checking t deadline i → (s.aside t).isSome

section Contention
variable {env : LockEnv} {s s' : LockWorld} {p : Nat} {ph : Phase}

/-- The call that wrote a complete file is over its write. -/
theorem Contended.spent (hs : Contended s) {f : LockFile} (hf : s.HasFile f) (hcontent : f.content ≠ none) :
    Spent s f.creator := by
  refine ⟨hs.creators f hf, fun q hq => ?_⟩
  have hunborn := hs.unborn q f.creator f hq
  have hunwritten := hs.unwritten q
  cases hphase : s.phase q with
  | holding t n | releasing t n | unlinking t n => rfl
  | writing t now =>
    rw [hphase] at hq
    cases hq
    exact absurd (hunwritten now f hf hphase) hcontent
  | _ =>
    rw [hphase] at hunborn
    exact absurd rfl (hunborn rfl hf)

/-- A spent token stays spent when a process moves on within its call. -/
theorem Spent.move {t : JsString} (h : Spent s t) (hissued : s'.issued = s.issued)
    (hphase : s'.phase = Function.update s.phase p ph)
    (htoken : ∀ t, ph.token = some t → (s.phase p).token = some t)
    (hheld : (s.phase p).heldSince.isSome → ph.token ≠ none → ph.heldSince.isSome) : Spent s' t := by
  refine ⟨hissued ▸ h.1, fun q hq => ?_⟩
  rw [hphase] at hq ⊢
  by_cases hqp : q = p
  · subst hqp
    rw [Function.update_self] at hq ⊢
    have hsome : ph.token ≠ none := by rw [hq]; exact Option.some_ne_none t
    exact hheld (h.2 q (htoken t hq)) hsome
  · rw [Function.update_of_ne hqp] at hq ⊢
    exact h.2 q hq

/-- One process moves on within its call, or ends it; files may move or go, none is created or written. -/
theorem Contended.move (hs : Contended s) (hissued : s'.issued = s.issued)
    (hphase : s'.phase = Function.update s.phase p ph)
    (htoken : ∀ t, ph.token = some t → (s.phase p).token = some t)
    (howner : ph.token ≠ none → ph.owner = none → (s.phase p).owner = none)
    (hheld : (s.phase p).heldSince.isSome → ph.token ≠ none → ph.heldSince.isSome)
    (hbefore : ∀ t now, s.phase p ≠ .writing t now) (hafter : ∀ t now, ph ≠ .writing t now)
    (hfiles : ∀ f, s'.HasFile f → s.HasFile f)
    (hinspected : ∀ i, ph.inspected = some i → Spent s i.token)
    (haside : ∀ q t, q ≠ p → (s.phase q).token = some t → s'.aside t = s.aside t)
    (hmoved : ∀ t deadline i, ph = .checking t deadline i → (s'.aside t).isSome) : Contended s' := by
  have hself : s'.phase p = ph := by rw [hphase, Function.update_self]
  have hne : ∀ q, q ≠ p → s'.phase q = s.phase q := fun q hq => by rw [hphase, Function.update_of_ne hq]
  have htok : ∀ q t, (s'.phase q).token = some t → (s.phase q).token = some t := by
    intro q t ht
    by_cases hq : q = p
    · subst hq
      rw [hself] at ht
      exact htoken t ht
    · rwa [hne q hq] at ht
  have hwriting : ∀ q t now, s'.phase q = .writing t now ↔ s.phase q = .writing t now := by
    intro q t now
    by_cases hq : q = p
    · subst hq
      rw [hself]
      exact iff_of_false (hafter t now) (hbefore t now)
    · rw [hne q hq]
  refine ⟨fun q t ht => ?_, fun q r t hq hr => ?_, fun f hf => ?_, fun q t f ht ho hf => ?_,
    fun f m hf hm => ?_, fun f hf hnone => ?_, fun q now f hf hw => ?_, fun q i hi => ?_, fun q t deadline i hc => ?_⟩
  · rw [hissued]
    exact hs.issued q t (htok q t ht)
  · exact hs.distinct q r t (htok q t hq) (htok r t hr)
  · rw [hissued]
    exact hs.creators f (hfiles f hf)
  · refine hs.unborn q t f (htok q t ht) ?_ (hfiles f hf)
    by_cases hq : q = p
    · subst hq
      rw [hself] at ht ho
      have hsome : ph.token ≠ none := by rw [ht]; exact Option.some_ne_none t
      exact howner hsome ho
    · rwa [hne q hq] at ho
  · exact hs.complete f m (hfiles f hf) hm
  · obtain ⟨q, now, hq⟩ := hs.awaited f (hfiles f hf) hnone
    exact ⟨q, now, (hwriting q _ now).mpr hq⟩
  · exact hs.unwritten q now f (hfiles f hf) ((hwriting q _ now).mp hw)
  · refine Spent.move ?_ hissued hphase htoken hheld
    by_cases hq : q = p
    · subst hq
      rw [hself] at hi
      exact hinspected i hi
    · rw [hne q hq] at hi
      exact hs.inspected q i hi
  · by_cases hq : q = p
    · subst hq
      rw [hself] at hc
      exact hmoved t deadline i hc
    · rw [hne q hq] at hc
      rw [haside q t hq (by rw [hc]; rfl)]
      exact hs.moved q t deadline i hc

/-- Such a move that leaves every file where it is. -/
theorem Contended.stay (hs : Contended s) (ph : Phase) (htoken : ∀ t, ph.token = some t → (s.phase p).token = some t)
    (howner : ph.token ≠ none → ph.owner = none → (s.phase p).owner = none)
    (hheld : (s.phase p).heldSince.isSome → ph.token ≠ none → ph.heldSince.isSome)
    (hbefore : ∀ t now, s.phase p ≠ .writing t now) (hafter : ∀ t now, ph ≠ .writing t now)
    (hinspected : ∀ i, ph.inspected = some i → Spent s i.token)
    (hmoved : ∀ t deadline i, ph ≠ .checking t deadline i) : Contended (s.goto p ph) :=
  hs.move rfl rfl htoken howner hheld hbefore hafter (fun _ hf => hf) hinspected (fun _ _ _ _ => rfl)
    fun t deadline i hc => absurd hc (hmoved t deadline i)

/-- A call that ends. -/
theorem Contended.leave (hs : Contended s) (hbefore : ∀ t now, s.phase p ≠ .writing t now) :
    Contended (s.goto p .idle) := by
  refine hs.stay .idle ?_ ?_ ?_ hbefore ?_ ?_ ?_ <;> simp [Phase.token, Phase.inspected]

/-- The exclusive create. -/
theorem Contended.create (hs : Contended s) {token : JsString} {deadline now : Nat}
    (hp : s.phase p = .creating token deadline now) :
    Contended (({ s with lock := some ⟨token, none, 0⟩ } : LockWorld).goto p (.writing token now)) := by
  set s' := ({ s with lock := some ⟨token, none, 0⟩ } : LockWorld).goto p (.writing token now) with hs'
  have htoken : (s.phase p).token = some token := by rw [hp]; rfl
  have howner : (s.phase p).owner = none := by rw [hp]; rfl
  have hself : s'.phase p = .writing token now := Function.update_self ..
  have hne : ∀ q, q ≠ p → s'.phase q = s.phase q := fun q hq => Function.update_of_ne hq ..
  have hother : ∀ q t, q ≠ p → (s.phase q).token = some t → t ≠ token := by
    rintro q t hq ht rfl
    exact hq (hs.distinct q p t ht htoken)
  have hfiles : ∀ f, s'.HasFile f → f = ⟨token, none, 0⟩ ∨ s.HasFile f := by
    rintro f (hf | hf)
    · cases hf
      exact .inl rfl
    · exact .inr (.inr hf)
  have hold : ∀ f, s.HasFile f → f.creator ≠ token := fun f => hs.unborn p token f htoken howner
  have htok : ∀ q t, (s'.phase q).token = some t → (s.phase q).token = some t := by
    intro q t ht
    by_cases hq : q = p
    · subst hq
      rw [hself] at ht
      exact htoken.trans ht
    · rwa [hne q hq] at ht
  refine ⟨fun q t ht => hs.issued q t (htok q t ht), fun q r t hq hr => hs.distinct q r t (htok q t hq) (htok r t hr),
    fun f hf => ?_, fun q t f ht ho hf => ?_, fun f m hf hm => ?_, fun f hf hnone => ?_, fun q now' f hf hw => ?_,
    fun q i hi => ?_, fun q t deadline i hc => ?_⟩
  · rcases hfiles f hf with rfl | hfile
    · exact (hs.issued p token htoken).1
    · exact hs.creators f hfile
  · by_cases hq : q = p
    · subst hq
      rw [hself] at ho
      cases ho
    · rw [hne q hq] at ht ho
      rcases hfiles f hf with rfl | hfile
      · exact (hother q t hq ht).symm
      · exact hs.unborn q t f ht ho hfile
  · rcases hfiles f hf with rfl | hfile
    · cases hm
    · exact hs.complete f m hfile hm
  · rcases hfiles f hf with rfl | hfile
    · exact ⟨p, now, hself⟩
    · obtain ⟨q, now', hq⟩ := hs.awaited f hfile hnone
      have hqp : q ≠ p := by
        rintro rfl
        rw [hp] at hq
        cases hq
      exact ⟨q, now', by rw [hne q hqp, hq]⟩
  · rcases hfiles f hf with rfl | hfile
    · rfl
    · by_cases hq : q = p
      · subst hq
        rw [hself] at hw
        cases hw
        exact absurd rfl (hold f hfile)
      · rw [hne q hq] at hw
        exact hs.unwritten q now' f hfile hw
  · have hqp : q ≠ p := by
      rintro rfl
      rw [hself] at hi
      cases hi
    rw [hne q hqp] at hi
    refine Spent.move (hs.inspected q i hi) rfl rfl (fun t ht => htoken.trans ht) fun hheld => ?_
    rw [hp] at hheld
    cases hheld
  · have hqp : q ≠ p := by
      rintro rfl
      rw [hself] at hc
      cases hc
    rw [hne q hqp] at hc
    exact hs.moved q t deadline i hc

/-- A file after a write through the descriptor of a call. -/
theorem hasFile_writeThrough {token : JsString} {m : LockMetadata} {f' : LockFile}
    (h : (s.writeThrough token m).HasFile f') : ∃ f, s.HasFile f ∧
      ((f.creator = token ∧ f' = { f with content := some m, writtenAt := s.time }) ∨ f.creator ≠ token ∧ f' = f) := by
  have hwrite : ∀ f : LockFile, (if f.creator = token then { f with content := some m, writtenAt := s.time } else f) = f' →
      (f.creator = token ∧ f' = { f with content := some m, writtenAt := s.time }) ∨ f.creator ≠ token ∧ f' = f := by
    intro f hf
    split at hf
    · next hc => exact .inl ⟨hc, hf.symm⟩
    · next hc => exact .inr ⟨hc, hf.symm⟩
  rcases h with h | ⟨t, h⟩
  · obtain ⟨f, hf, he⟩ := Option.map_eq_some_iff.mp h
    exact ⟨f, .inl hf, hwrite f he⟩
  · obtain ⟨f, hf, he⟩ := Option.map_eq_some_iff.mp h
    exact ⟨f, .inr ⟨t, hf⟩, hwrite f he⟩

/-- The write of the metadata. -/
theorem Contended.write (hs : Contended s) (henv : env.Valid) {token : JsString} {now : Nat}
    (hp : s.phase p = .writing token now) :
    Contended ((s.writeThrough token ⟨p, env.host p, token, env.tenderId, now⟩).goto p (.holding token s.time)) := by
  set m : LockMetadata := ⟨p, env.host p, token, env.tenderId, now⟩ with hm
  set s' := (s.writeThrough token m).goto p (.holding token s.time) with hs'
  have htoken : (s.phase p).token = some token := by rw [hp]; rfl
  have hself : s'.phase p = .holding token s.time := Function.update_self ..
  have hne : ∀ q, q ≠ p → s'.phase q = s.phase q := fun q hq => Function.update_of_ne hq ..
  have hvalid : parseLockMetadata (some m) = some m := by
    have hlength := (hs.issued p token htoken).2
    have hhost := henv.host p
    have htender := henv.tenderId
    refine if_pos ⟨hhost.1, hhost.2, ?_, ?_, htender⟩ <;> simp only [hm] <;> omega
  have hfiles : ∀ f', s'.HasFile f' → ∃ f, s.HasFile f ∧
      ((f.creator = token ∧ f' = { f with content := some m, writtenAt := s.time }) ∨ f.creator ≠ token ∧ f' = f) :=
    fun f' hf' => hasFile_writeThrough hf'
  have htok : ∀ q t, (s'.phase q).token = some t → (s.phase q).token = some t := by
    intro q t ht
    by_cases hq : q = p
    · subst hq
      rw [hself] at ht
      exact htoken.trans ht
    · rwa [hne q hq] at ht
  refine ⟨fun q t ht => hs.issued q t (htok q t ht), fun q r t hq hr => hs.distinct q r t (htok q t hq) (htok r t hr),
    fun f hf => ?_, fun q t f ht ho hf => ?_, fun f m' hf hm' => ?_, fun f hf hnone => ?_, fun q now' f hf hw => ?_,
    fun q i hi => ?_, fun q t deadline i hc => ?_⟩
  · obtain ⟨f, hfile, ⟨-, rfl⟩ | ⟨-, rfl⟩⟩ := hfiles f hf
    · exact hs.creators f hfile
    · exact hs.creators f hfile
  · have hqp : q ≠ p := by
      rintro rfl
      rw [hself] at ho
      cases ho
    rw [hne q hqp] at ht ho
    obtain ⟨f, hfile, ⟨-, rfl⟩ | ⟨-, rfl⟩⟩ := hfiles f hf
    · exact hs.unborn q t f ht ho hfile
    · exact hs.unborn q t f ht ho hfile
  · obtain ⟨f, hfile, ⟨hc, rfl⟩ | ⟨-, rfl⟩⟩ := hfiles f hf
    · cases hm'
      exact ⟨hvalid, hc.symm⟩
    · exact hs.complete f m' hfile hm'
  · obtain ⟨f, hfile, ⟨-, rfl⟩ | ⟨hc, rfl⟩⟩ := hfiles f hf
    · cases hnone
    · obtain ⟨q, now', hq⟩ := hs.awaited f hfile hnone
      have hqp : q ≠ p := by
        rintro rfl
        rw [hp] at hq
        cases hq
        exact hc rfl
      exact ⟨q, now', by rw [hne q hqp, hq]⟩
  · have hqp : q ≠ p := by
      rintro rfl
      rw [hself] at hw
      cases hw
    rw [hne q hqp] at hw
    obtain ⟨f, hfile, ⟨hc, rfl⟩ | ⟨-, rfl⟩⟩ := hfiles f hf
    · -- another process would be writing under the same token
      have htok' : (s.phase q).token = some token := by rw [hw]; exact congrArg some hc
      exact absurd (hs.distinct q p token htok' htoken) hqp
    · exact hs.unwritten q now' f hfile hw
  · have hqp : q ≠ p := by
      rintro rfl
      rw [hself] at hi
      cases hi
    rw [hne q hqp] at hi
    refine Spent.move (hs.inspected q i hi) rfl rfl (fun t ht => htoken.trans ht) fun _ _ => rfl
  · have hqp : q ≠ p := by
      rintro rfl
      rw [hself] at hc
      cases hc
    rw [hne q hqp] at hc
    have := hs.moved q t deadline i hc
    simp only [hs', LockWorld.goto, LockWorld.writeThrough, Option.isSome_map]
    exact this

/-- A call starts. -/
theorem Contended.enter (hs : Contended s) {token : JsString} (deadline : Nat) (hidle : s.phase p = .idle)
    (hfresh : token ∉ s.issued) (hlength : token.length = 36) :
    Contended (({ s with issued := token :: s.issued } : LockWorld).goto p (.looping token deadline)) := by
  set s' := ({ s with issued := token :: s.issued } : LockWorld).goto p (.looping token deadline) with hs'
  have hself : s'.phase p = .looping token deadline := Function.update_self ..
  have hne : ∀ q, q ≠ p → s'.phase q = s.phase q := fun q hq => Function.update_of_ne hq ..
  have hissued : ∀ t ∈ s.issued, t ∈ s'.issued := fun t ht => List.mem_cons_of_mem _ ht
  have hnew : ∀ t ∈ s.issued, t ≠ token := by
    rintro t ht rfl
    exact hfresh ht
  have hspent : ∀ t, Spent s t → Spent s' t := by
    intro t ht
    refine ⟨hissued t ht.1, fun q hq => ?_⟩
    by_cases hqp : q = p
    · subst hqp
      rw [hself] at hq
      cases hq
      exact absurd ht.1 hfresh
    · rw [hne q hqp] at hq ⊢
      exact ht.2 q hq
  refine ⟨fun q t ht => ?_, fun q r t hq hr => ?_, fun f hf => hissued _ (hs.creators f hf),
    fun q t f ht ho hf => ?_, fun f m hf hm => hs.complete f m hf hm, fun f hf hnone => ?_, fun q now f hf hw => ?_,
    fun q i hi => ?_, fun q t deadline i hc => ?_⟩
  · by_cases hq : q = p
    · subst hq
      rw [hself] at ht
      cases ht
      exact ⟨List.mem_cons_self, hlength⟩
    · rw [hne q hq] at ht
      exact ⟨hissued t (hs.issued q t ht).1, (hs.issued q t ht).2⟩
  · by_cases hqp : q = p <;> by_cases hrp : r = p
    · rw [hqp, hrp]
    · rw [hqp, hself] at hq
      rw [hne r hrp] at hr
      cases hq
      exact absurd rfl (hnew _ (hs.issued r _ hr).1)
    · rw [hrp, hself] at hr
      rw [hne q hqp] at hq
      cases hr
      exact absurd rfl (hnew _ (hs.issued q _ hq).1)
    · rw [hne q hqp] at hq
      rw [hne r hrp] at hr
      exact hs.distinct q r t hq hr
  · by_cases hq : q = p
    · subst hq
      rw [hself] at ht
      cases ht
      exact hnew _ (hs.creators f hf)
    · rw [hne q hq] at ht ho
      exact hs.unborn q t f ht ho hf
  · obtain ⟨q, now, hq⟩ := hs.awaited f hf hnone
    have hqp : q ≠ p := by
      rintro rfl
      rw [hidle] at hq
      cases hq
    exact ⟨q, now, by rw [hne q hqp, hq]⟩
  · have hqp : q ≠ p := by
      rintro rfl
      rw [hself] at hw
      cases hw
    rw [hne q hqp] at hw
    exact hs.unwritten q now f hf hw
  · have hqp : q ≠ p := by
      rintro rfl
      rw [hself] at hi
      cases hi
    rw [hne q hqp] at hi
    exact hspent _ (hs.inspected q i hi)
  · have hqp : q ≠ p := by
      rintro rfl
      rw [hself] at hc
      cases hc
    rw [hne q hqp] at hc
    exact hs.moved q t deadline i hc

/-- What a file parses to is what it holds. -/
theorem parseLockMetadata_eq_some {c : Option LockMetadata} {m : LockMetadata} (h : parseLockMetadata c = some m) :
    c = some m := by
  cases c with
  | none => cases h
  | some m' =>
    rw [parseLockMetadata, Option.ite_none_right_eq_some] at h
    rw [h.2]

theorem Contended.inspect (hs : Contended s) {token : JsString} {deadline now : Nat} {f : LockFile}
    (hp : s.phase p = .inspecting token deadline now) (hlock : s.lock = some f) :
    Contended (inspect env s p token deadline now f).1 := by
  have hbefore : ∀ t now, s.phase p ≠ .writing t now := by simp [hp]
  unfold RouteGuard.Store.inspect
  split
  · exact hs.leave hbefore
  · next existing hexisting =>
    have hcontent := parseLockMetadata_eq_some hexisting
    have hspent : Spent s existing.token := by
      rw [(hs.complete f existing (.inl hlock) hcontent).2]
      exact hs.spent (.inl hlock) (by rw [hcontent]; exact Option.some_ne_none _)
    split
    · refine hs.stay (.reclaiming token deadline existing) ?_ ?_ ?_ hbefore ?_ ?_ ?_ <;>
        simp [hp, Phase.token, Phase.owner, Phase.heldSince, Phase.inspected, hspent]
    · split
      · exact hs.leave hbefore
      · split
        · exact hs.leave hbefore
        · refine hs.stay (.waiting token deadline) ?_ ?_ ?_ hbefore ?_ ?_ ?_ <;>
            simp [hp, Phase.token, Phase.owner, Phase.heldSince, Phase.inspected]

theorem Contended.advance (hs : Contended s) (henv : env.Valid) {r : Option LockOutcome}
    (h : advance env s p = some (s', r)) : Contended s' := by
  unfold RouteGuard.Store.advance at h
  cases hp : s.phase p with
  | idle => simp [hp] at h
  | looping token deadline =>
    simp only [hp] at h
    cases h
    refine hs.stay (.creating token deadline s.time) ?_ ?_ ?_ ?_ ?_ ?_ ?_ <;>
      simp [hp, Phase.token, Phase.owner, Phase.heldSince, Phase.inspected]
  | creating token deadline now =>
    simp only [hp] at h
    split at h
    · cases h
      exact hs.create hp
    · cases h
      refine hs.stay (.inspecting token deadline now) ?_ ?_ ?_ ?_ ?_ ?_ ?_ <;>
        simp [hp, Phase.token, Phase.owner, Phase.heldSince, Phase.inspected]
  | writing token now =>
    simp only [hp] at h
    cases h
    exact hs.write henv hp
  | inspecting token deadline now =>
    simp only [hp] at h
    split at h
    · cases h
      refine hs.stay (.looping token deadline) ?_ ?_ ?_ ?_ ?_ ?_ ?_ <;>
        simp [hp, Phase.token, Phase.owner, Phase.heldSince, Phase.inspected]
    · next f hlock =>
      have hinspect : Contended (RouteGuard.Store.inspect env s p token deadline now f).1 := hs.inspect hp hlock
      simp only [Option.some.injEq] at h
      rwa [h] at hinspect
  | reclaiming token deadline inspected =>
    simp only [hp] at h
    split at h
    · cases h
      refine hs.stay (.looping token deadline) ?_ ?_ ?_ ?_ ?_ ?_ ?_ <;>
        simp [hp, Phase.token, Phase.owner, Phase.heldSince, Phase.inspected]
    · next f hlock =>
      cases h
      have htoken : (s.phase p).token = some token := by rw [hp]; rfl
      have hspent := hs.inspected p inspected (by rw [hp]; rfl)
      refine hs.move rfl rfl ?_ ?_ ?_ ?_ ?_ (fun g hg => ?_) ?_ (fun q t hq ht => ?_) ?_
      · simp [hp, Phase.token]
      · simp [hp, Phase.token, Phase.owner]
      · simp [hp, Phase.heldSince]
      · simp [hp]
      · simp
      · rcases hg with hg | ⟨t, hg⟩
        · cases hg
        · -- the file at the private path of the call is the one that was at the lock path
          by_cases ht : t = token
          · subst ht
            simp only [LockWorld.goto, Function.update_self] at hg
            exact .inl (hlock.trans hg)
          · simp only [LockWorld.goto, Function.update_of_ne ht] at hg
            exact .inr ⟨t, hg⟩
      · simpa [Phase.inspected] using hspent
      · have hne : t ≠ token := by
          rintro rfl
          exact hq (hs.distinct q p t ht htoken)
        exact Function.update_of_ne hne ..
      · rintro t d i ⟨⟩
        simp [LockWorld.goto]
  | checking token deadline inspected =>
    simp only [hp] at h
    split at h
    · cases h
      exact hs.leave (by simp [hp])
    · split at h
      · cases h
        refine hs.stay (.discarding token deadline) ?_ ?_ ?_ ?_ ?_ ?_ ?_ <;>
          simp [hp, Phase.token, Phase.owner, Phase.heldSince, Phase.inspected]
      · cases h
        exact hs.leave (by simp [hp])
  | discarding token deadline =>
    simp only [hp] at h
    cases h
    have htoken : (s.phase p).token = some token := by rw [hp]; rfl
    refine hs.move rfl rfl ?_ ?_ ?_ ?_ ?_ (fun g hg => ?_) ?_ (fun q t hq ht => ?_) ?_
    · simp [hp, Phase.token]
    · simp [hp, Phase.token, Phase.owner]
    · simp [hp, Phase.heldSince]
    · simp [hp]
    · simp
    · rcases hg with hg | ⟨t, hg⟩
      · exact .inl hg
      · by_cases ht : t = token
        · subst ht
          simp only [LockWorld.goto, Function.update_self] at hg
          cases hg
        · simp only [LockWorld.goto, Function.update_of_ne ht] at hg
          exact .inr ⟨t, hg⟩
    · simp [Phase.inspected]
    · have hne : t ≠ token := by
        rintro rfl
        exact hq (hs.distinct q p t ht htoken)
      exact Function.update_of_ne hne ..
    · simp
  | waiting token deadline =>
    simp only [hp] at h
    cases h
    refine hs.stay (.looping token deadline) ?_ ?_ ?_ ?_ ?_ ?_ ?_ <;>
      simp [hp, Phase.token, Phase.owner, Phase.heldSince, Phase.inspected]
  | holding token since =>
    simp only [hp] at h
    cases h
    refine hs.stay (.releasing token since) ?_ ?_ ?_ ?_ ?_ ?_ ?_ <;>
      simp [hp, Phase.token, Phase.owner, Phase.heldSince, Phase.inspected]
  | releasing token since =>
    simp only [hp] at h
    split at h
    · cases h
      refine hs.stay (.unlinking token since) ?_ ?_ ?_ ?_ ?_ ?_ ?_ <;>
        simp [hp, Phase.token, Phase.owner, Phase.heldSince, Phase.inspected]
    · cases h
      exact hs.leave (by simp [hp])
  | unlinking token since =>
    simp only [hp] at h
    cases h
    refine hs.move rfl rfl ?_ ?_ ?_ ?_ ?_ (fun g hg => ?_) ?_ (fun _ _ _ _ => rfl) ?_
    · simp [Phase.token]
    · simp [Phase.token]
    · simp [Phase.token]
    · simp [hp]
    · simp
    · rcases hg with hg | hg
      · cases hg
      · exact .inr hg
    · simp [Phase.inspected]
    · simp

theorem Contended.step (hs : Contended s) (henv : env.Valid) {l : LockLabel} (hl : l.alive = true)
    (h : LockStep env s l s') : Contended s' := by
  cases h with
  | tick ms =>
    exact ⟨hs.issued, hs.distinct, hs.creators, hs.unborn, hs.complete, hs.awaited, hs.unwritten, hs.inspected, hs.moved⟩
  | enter hidle hfresh => exact hs.enter _ hidle hfresh (of_decide_eq_true hl)
  | advance h => exact hs.advance henv h
  | lost => cases hl

end Contention

theorem contended_of_run {env : LockEnv} (henv : env.Valid) {ls : List LockLabel} {s : LockWorld}
    (h : (livingLockSystem env).Run ls s) : Contended s := by
  refine System.Run.induction (S := livingLockSystem env) (I := fun _ s => Contended s) ?_ ?_ h
  · intro s hs
    have hfiles : ∀ f, s.HasFile f → ∃ m, parseLockMetadata f.content = some m ∧ f.creator = m.token ∧ m.token ∈ s.issued := by
      rintro f (hf | ⟨t, hf⟩)
      · obtain ⟨m, hm, -, -, hcreator, hissued⟩ := hs.lock f hf
        exact ⟨m, hm, hcreator, hissued⟩
      · rw [hs.aside] at hf
        cases hf
    refine ⟨?_, ?_, fun f hf => ?_, ?_, fun f m hf hm => ?_, fun f hf hnone => ?_, ?_, ?_, ?_⟩
    · simp [hs.idle, Phase.token]
    · simp [hs.idle, Phase.token]
    · obtain ⟨m, -, hcreator, hissued⟩ := hfiles f hf
      rwa [hcreator]
    · simp [hs.idle, Phase.token]
    · obtain ⟨m', hparsed, hcreator, -⟩ := hfiles f hf
      obtain rfl : m' = m := Option.some.inj ((parseLockMetadata_eq_some hparsed).symm.trans hm)
      rw [hm] at hparsed
      exact ⟨hparsed, hcreator.symm⟩
    · obtain ⟨m, hparsed, -⟩ := hfiles f hf
      rw [hnone] at hparsed
      cases hparsed
    · simp [hs.idle]
    · simp [hs.idle, Phase.inspected]
    · simp [hs.idle]
  · rintro _ _ _ _ _ hs ⟨hstep, halive⟩
    exact hs.step henv halive hstep

/-! ## The result -/

/-- The process reads a lock file that another process has created and is about to write. -/
def ReadsUnwritten (s : LockWorld) (p : Nat) : Prop :=
  ∃ token deadline now f, s.phase p = .inspecting token deadline now ∧ s.lock = some f ∧ f.content = none ∧
    ∃ q now', s.phase q = .writing f.creator now'

/-- The file that the process moved aside is not the one it inspected. -/
def MovedAnother (s : LockWorld) (p : Nat) : Prop :=
  ∃ token deadline inspected f, s.phase p = .checking token deadline inspected ∧ s.aside token = some f ∧
    f.creator ≠ inspected.token

section Result
variable {env : LockEnv} {s s' : LockWorld} {p : Nat} {r : Option LockOutcome}

/-- The inspection is corrupt exactly for a file without metadata. -/
theorem inspect_corrupt_iff (hs : Contended s) {token : JsString} {deadline now : Nat} {f : LockFile}
    (hlock : s.lock = some f) :
    (∃ message, (inspect env s p token deadline now f).2 = some (.lockCorrupt message)) ↔ f.content = none := by
  unfold inspect
  cases hcontent : f.content with
  | none => exact iff_of_true ⟨_, rfl⟩ rfl
  | some m =>
    refine iff_of_false ?_ (Option.some_ne_none m)
    rw [(hs.complete f m (.inl hlock) hcontent).1]
    rintro ⟨message, h⟩
    dsimp only at h
    split_ifs at h <;> cases h

/-- The moved file is the inspected one exactly when its metadata say so. -/
theorem Contended.checked_iff (hs : Contended s) {token : JsString} {deadline : Nat} {inspected : LockMetadata}
    {f : LockFile} (hp : s.phase p = .checking token deadline inspected) (haside : s.aside token = some f) :
    (parseLockMetadata f.content).map LockMetadata.token = some inspected.token ↔ f.creator = inspected.token := by
  have hfile : s.HasFile f := .inr ⟨token, haside⟩
  cases hcontent : f.content with
  | none =>
    refine iff_of_false (Option.some_ne_none inspected.token).symm fun hcreator => ?_
    -- its creator is about to write, and the call that was inspected is over that
    obtain ⟨q, now, hq⟩ := hs.awaited f hfile hcontent
    have hspent := hs.inspected p inspected (by rw [hp]; rfl)
    have hheld := hspent.2 q (by rw [hq]; exact congrArg some hcreator)
    rw [hq] at hheld
    cases hheld
  | some m =>
    obtain ⟨hvalid, htoken⟩ := hs.complete f m hfile hcontent
    rw [hvalid, Option.map_some, Option.some.injEq, htoken]

theorem advance_corrupt_iff (hs : Contended s) (h : advance env s p = some (s', r)) :
    (∃ message, r = some (.lockCorrupt message)) ↔ ReadsUnwritten s p ∨ MovedAnother s p := by
  -- the phases that are in neither case
  have hneither (hr : ∀ message, r ≠ some (.lockCorrupt message))
      (hp : ∀ token deadline now, s.phase p ≠ .inspecting token deadline now)
      (hp' : ∀ token deadline i, s.phase p ≠ .checking token deadline i) :
      (∃ message, r = some (.lockCorrupt message)) ↔ ReadsUnwritten s p ∨ MovedAnother s p := by
    refine iff_of_false (not_exists.mpr hr) ?_
    rintro (⟨token, deadline, now, f, hphase, -⟩ | ⟨token, deadline, i, f, hphase, -⟩)
    · exact hp token deadline now hphase
    · exact hp' token deadline i hphase
  unfold advance at h
  cases hp : s.phase p with
  | inspecting token deadline now =>
    have hmoved : ¬ MovedAnother s p := by
      rintro ⟨_, _, _, _, hphase, -⟩
      rw [hp] at hphase
      cases hphase
    rw [or_iff_left hmoved]
    simp only [hp] at h
    split at h
    · next hlock =>
      cases h
      refine iff_of_false (by simp) ?_
      rintro ⟨_, _, _, f, -, hf, -⟩
      rw [hlock] at hf
      cases hf
    · next f hlock =>
      simp only [Option.some.injEq] at h
      obtain rfl : (inspect env s p token deadline now f).2 = r := congrArg Prod.snd h
      rw [inspect_corrupt_iff hs hlock]
      constructor
      · intro hcontent
        exact ⟨token, deadline, now, f, hp, hlock, hcontent, hs.awaited f (.inl hlock) hcontent⟩
      · rintro ⟨_, _, _, g, -, hg, hcontent, -⟩
        rw [hlock] at hg
        cases hg
        exact hcontent
  | checking token deadline inspected =>
    have hreads : ¬ ReadsUnwritten s p := by
      rintro ⟨_, _, _, _, hphase, -⟩
      rw [hp] at hphase
      cases hphase
    rw [or_iff_right hreads]
    simp only [hp] at h
    have hsome := hs.moved p token deadline inspected hp
    split at h
    · next haside =>
      rw [haside] at hsome
      cases hsome
    · next f haside =>
      have hchecked := hs.checked_iff hp haside
      have hmoved : MovedAnother s p ↔ f.creator ≠ inspected.token := by
        constructor
        · rintro ⟨_, _, _, g, hphase, hg, hne⟩
          rw [hp] at hphase
          cases hphase
          rw [haside] at hg
          cases hg
          exact hne
        · intro hne
          exact ⟨token, deadline, inspected, f, hp, haside, hne⟩
      rw [hmoved]
      split at h
      · next hsame =>
        cases h
        exact iff_of_false (by simp) (not_not.mpr (hchecked.mp hsame))
      · next hother =>
        cases h
        exact iff_of_true ⟨_, rfl⟩ fun hcreator => hother (hchecked.mpr hcreator)
  | creating token deadline now | reclaiming token deadline inspected | releasing token since =>
    simp only [hp] at h
    split at h <;> cases h <;> exact hneither (by simp) (by simp [hp]) (by simp [hp])
  | idle => simp [hp] at h
  | _ =>
    simp only [hp] at h
    cases h
    exact hneither (by simp) (by simp [hp]) (by simp [hp])

/-- A corrupt lock is left as it is. -/
theorem corrupt_keeps_files {message : String} (h : advance env s p = some (s', some (.lockCorrupt message))) :
    s'.lock = s.lock ∧ s'.aside = s.aside := by
  unfold advance at h
  cases hp : s.phase p with
  | inspecting token deadline now =>
    simp only [hp] at h
    split at h
    · cases h
    · unfold inspect at h
      split at h
      · cases h
        exact ⟨rfl, rfl⟩
      · split_ifs at h <;> cases h
  | checking token deadline inspected =>
    simp only [hp] at h
    split at h
    · cases h
      exact ⟨rfl, rfl⟩
    · split at h
      · cases h
      · cases h
        exact ⟨rfl, rfl⟩
  | creating token deadline now | reclaiming token deadline inspected | releasing token since =>
    simp only [hp] at h
    split at h <;> cases h
  | idle => simp [hp] at h
  | _ =>
    simp only [hp] at h
    cases h

end Result

/-- **A lock is corrupt only to a reader between its create and its write, or to a reclaimer that moved another lock.**
In every run of processes that only acquire and release, none of them lost, interleaved at every file operation: the
next operation of a process ends its call in `LOCK_CORRUPT` exactly in these two cases. The operation that throws
changes no lock file; in the second case the file that was moved stays aside. Any other call that ends is acquired,
released, busy or timed out. -/
theorem lock_corrupt_iff {env : LockEnv} (henv : env.Valid) {ls : List LockLabel} {s s' : LockWorld} {p : Nat}
    {r : Option LockOutcome} (hrun : (livingLockSystem env).Run ls s) (h : advance env s p = some (s', r)) :
    ((∃ message, r = some (.lockCorrupt message)) ↔ ReadsUnwritten s p ∨ MovedAnother s p) ∧
      ((∃ message, r = some (.lockCorrupt message)) → s'.lock = s.lock ∧ s'.aside = s.aside) := by
  refine ⟨advance_corrupt_iff (contended_of_run henv hrun) h, ?_⟩
  rintro ⟨message, rfl⟩
  exact corrupt_keeps_files h

/-! ## Two contenders for a free lock -/

namespace Unwritten

/-- No lock, nobody in the code. -/
def start : LockWorld where
  time := 0
  lock := none
  aside _ := none
  issued := []
  phase _ := .idle

/-- Process 0 creates the lock file; process 1 finds that it exists. -/
def race : List LockLabel :=
  .enter 0 (js "0f0f0f0f-0000-4000-8000-000000000000") :: .enter 1 (js "0f0f0f0f-0000-4000-8000-000000000001") ::
    [0, 0, 1, 1].map LockLabel.advance

theorem env_valid : Displaced.env.Valid := by
  refine ⟨fun _ => ?_, by decide⟩
  show 1 ≤ (js "node").length ∧ (js "node").length ≤ 256
  decide

/-- Process 1 is at its read, and the read is corrupt. -/
theorem race_runs : ∃ s s' message, (livingLockSystem Displaced.env).Run race s ∧
    advance Displaced.env s 1 = some (s', some (.lockCorrupt message)) := by
  have hexec : ∃ s ∈ System.execute (Displaced.next fun _ l => l.alive) race start,
      (advance Displaced.env s 1).map Prod.snd =
        some (some (.lockCorrupt "lock metadata is malformed or incomplete")) := by
    decide
  obtain ⟨s, hs, hcorrupt⟩ := hexec
  obtain ⟨⟨s', r⟩, hadvance, hr⟩ := Option.map_eq_some_iff.mp hcorrupt
  have hstart : LockStart Displaced.env start := by
    refine ⟨rfl, rfl, fun f hf => ?_⟩
    cases hf
  obtain rfl : r = _ := hr
  refine ⟨s, s', _, ⟨_, hstart, .of_execute (fun _ _ _ h => ?_) hs⟩, hadvance⟩
  exact ⟨(Displaced.next_step h).1, (Displaced.next_step h).2.2⟩

end Unwritten

/-- Nobody crashed, and a call ends in `LOCK_CORRUPT`. -/
theorem healthy_contention_corrupt :
    ¬ ∀ (env : LockEnv) (ls : List LockLabel) (s s' : LockWorld) (p : Nat) (r : Option LockOutcome), env.Valid →
      (livingLockSystem env).Run ls s → advance env s p = some (s', r) →
      ∀ message, r ≠ some (.lockCorrupt message) := by
  intro h
  obtain ⟨s, s', message, hrun, hadvance⟩ := Unwritten.race_runs
  exact h Displaced.env Unwritten.race s s' 1 _ Unwritten.env_valid hrun hadvance message rfl

theorem lock_corrupt_of_unwritten :
    ∃ s s' r, (livingLockSystem Displaced.env).Run Unwritten.race s ∧ advance Displaced.env s 1 = some (s', r) ∧
      (ReadsUnwritten s 1 ∨ MovedAnother s 1) ∧ s'.lock = s.lock ∧ s'.aside = s.aside := by
  obtain ⟨s, s', message, hrun, hadvance⟩ := Unwritten.race_runs
  have hiff := lock_corrupt_iff Unwritten.env_valid hrun hadvance
  exact ⟨s, s', _, hrun, hadvance, hiff.1.mp ⟨message, rfl⟩, hiff.2 ⟨message, rfl⟩⟩

end RouteGuard.Store
