import RouteGuard.Store.FileLock

/-!
# Mutual exclusion of the file lock

A process that created the lock file owns it until it unlinks it or another process renames it away.
The rename of `reclaimStaleLock` moves whatever file is at the lock path; only afterwards is its token
compared. When it moves the file it inspected, and that file is as old as it looks, no owner loses its
file and at most one process holds the lock (`lock_exclusive`). When another contender has replaced the
stale lock in between, a live lock is moved aside and a third process can acquire too (`Displaced`).

* `OwnsFile` : what an owner relies on;
* `Exclusive` : the invariant;
* `HeldBriefly` : the assumption on holders; `reclaimsInspected` : the condition on reclaimers.
-/

namespace RouteGuard.Store
open JsString

namespace Phase

/-- The token of a call in progress. -/
def token : Phase → Option JsString
  | idle => none
  | looping t _ | creating t _ _ | writing t _ | inspecting t _ _ | reclaiming t _ _ | checking t _ _
  | discarding t _ | waiting t _ | holding t _ | releasing t _ | unlinking t _ => some t

/-- The token of a process whose own file should be at the lock path. -/
def owner : Phase → Option JsString
  | writing t _ | holding t _ | releasing t _ | unlinking t _ => some t
  | _ => none

/-- For a process between a successful acquire and the end of its release: when the acquire returned. -/
def heldSince : Phase → Option Nat
  | holding _ n | releasing _ n | unlinking _ n => some n
  | _ => none

theorem owner_token {ph : Phase} {t : JsString} (h : ph.owner = some t) : ph.token = some t := by
  cases ph <;> simp_all [owner, token]

theorem owner_of_heldSince {ph : Phase} {n : Nat} (h : ph.heldSince = some n) : ∃ t, ph.owner = some t := by
  cases ph <;> simp_all [heldSince, owner]

end Phase

/-- What a process relies on while it owns the lock: the file at the path is its own, and was completed
when its acquire returned. -/
def OwnsFile (lock : Option LockFile) : Phase → Prop
  | .writing t _ => ∃ f, lock = some f ∧ f.creator = t ∧ f.content = none
  | .holding t n | .releasing t n | .unlinking t n =>
    ∃ f, lock = some f ∧ f.creator = t ∧ f.writtenAt = n
  | _ => True

theorem OwnsFile.of_owner_none {lock : Option LockFile} {ph : Phase} (h : ph.owner = none) :
    OwnsFile lock ph := by
  cases ph <;> simp_all [Phase.owner, OwnsFile]

theorem OwnsFile.creator {lock : Option LockFile} {ph : Phase} {t : JsString} (h : OwnsFile lock ph)
    (ho : ph.owner = some t) : ∃ f, lock = some f ∧ f.creator = t := by
  cases ph <;> simp only [Phase.owner, Option.some.injEq, reduceCtorEq] at ho <;> subst ho <;>
    exact ⟨h.choose, h.choose_spec.1, h.choose_spec.2.1⟩

section Exclusion
variable {env : LockEnv} {s s' : LockWorld} {p : Nat} {ph : Phase}

/-- The invariant of the lock. -/
structure Exclusive (env : LockEnv) (s : LockWorld) : Prop where
  brief : ∀ p n, (s.phase p).heldSince = some n → s.time < n + env.config.staleAfterMs
  issued : ∀ p t, (s.phase p).token = some t → t ∈ s.issued
  distinct : ∀ p q t, (s.phase p).token = some t → (s.phase q).token = some t → p = q
  owns : ∀ p, OwnsFile s.lock (s.phase p)

/-- An owner is alone. -/
theorem Exclusive.sole (hs : Exclusive env s) {t : JsString} (hp : (s.phase p).owner = some t) {q : Nat}
    (hq : q ≠ p) : (s.phase q).owner = none := by
  cases ho : (s.phase q).owner with
  | none => rfl
  | some t' =>
    obtain ⟨f, hf, rfl⟩ := (hs.owns p).creator hp
    obtain ⟨f', hf', rfl⟩ := (hs.owns q).creator ho
    obtain rfl : f = f' := Option.some.inj (hf.symm.trans hf')
    exact absurd (hs.distinct q p _ (Phase.owner_token ho) (Phase.owner_token hp)) hq

theorem Exclusive.absent (hs : Exclusive env s) (hlock : s.lock = none) (q : Nat) :
    (s.phase q).owner = none := by
  cases ho : (s.phase q).owner with
  | none => rfl
  | some t =>
    obtain ⟨f, hf, -⟩ := (hs.owns q).creator ho
    rw [hlock] at hf
    cases hf

/-- One process moves on within its call, or ends it. -/
theorem Exclusive.move (hs : Exclusive env s) (htime : s'.time = s.time) (hissued : s'.issued = s.issued)
    (hphase : s'.phase = Function.update s.phase p ph)
    (htoken : ∀ t, ph.token = some t → (s.phase p).token = some t)
    (hbrief : ∀ n, ph.heldSince = some n → s.time < n + env.config.staleAfterMs)
    (hown : OwnsFile s'.lock ph) (hothers : ∀ q, q ≠ p → OwnsFile s'.lock (s.phase q)) :
    Exclusive env s' := by
  have hself : s'.phase p = ph := by rw [hphase, Function.update_self]
  have hne : ∀ q, q ≠ p → s'.phase q = s.phase q := fun q hq => by rw [hphase, Function.update_of_ne hq]
  have htok : ∀ q t, (s'.phase q).token = some t → (s.phase q).token = some t := by
    intro q t ht
    by_cases hq : q = p
    · subst hq
      rw [hself] at ht
      exact htoken t ht
    · rwa [hne q hq] at ht
  refine ⟨fun q n hn => ?_, fun q t ht => ?_, fun q r t hq hr => ?_, fun q => ?_⟩
  · rw [htime]
    by_cases hq : q = p
    · subst hq
      rw [hself] at hn
      exact hbrief n hn
    · rw [hne q hq] at hn
      exact hs.brief q n hn
  · rw [hissued]
    exact hs.issued q t (htok q t ht)
  · exact hs.distinct q r t (htok q t hq) (htok r t hr)
  · by_cases hq : q = p
    · subst hq
      rw [hself]
      exact hown
    · rw [hne q hq]
      exact hothers q hq

/-- Such a move that leaves the lock path alone. -/
theorem Exclusive.stay (hs : Exclusive env s) (htime : s'.time = s.time) (hissued : s'.issued = s.issued)
    (hlock : s'.lock = s.lock) (hphase : s'.phase = Function.update s.phase p ph)
    (htoken : ∀ t, ph.token = some t → (s.phase p).token = some t)
    (hbrief : ∀ n, ph.heldSince = some n → (s.phase p).heldSince = some n)
    (hown : OwnsFile s.lock ph) : Exclusive env s' := by
  refine hs.move htime hissued hphase htoken (fun n hn => hs.brief p n (hbrief n hn)) ?_ fun q _ => ?_
  · rwa [hlock]
  · rw [hlock]
    exact hs.owns q

/-- A call that throws or returns without the lock. -/
theorem Exclusive.leave (hs : Exclusive env s) (p : Nat) : Exclusive env (s.goto p .idle) :=
  hs.stay rfl rfl rfl rfl nofun nofun trivial

/-- No process holds the lock for `staleAfterMs` or longer: time does not pass that far. -/
def HeldBriefly (env : LockEnv) (s : LockWorld) : LockLabel → Prop
  | .tick ms => ∀ p n, (s.phase p).heldSince = some n → s.time + ms < n + env.config.staleAfterMs
  | _ => True

/-- The condition on `reclaimStaleLock`: the file it renames is the one it inspected, and that file was
completed at least `staleAfterMs` ago. -/
def reclaimsInspected (env : LockEnv) (s : LockWorld) : LockLabel → Bool
  | .advance p =>
    match s.phase p, s.lock with
    | .reclaiming _ _ inspected, some f =>
      f.content.map LockMetadata.token = some inspected.token &&
        f.writtenAt + env.config.staleAfterMs ≤ s.time
    | _, _ => true
  | _ => true

/-- A file completed that long ago has no owner any more. -/
theorem Exclusive.stale_unowned (hs : Exclusive env s) {f : LockFile} (hlock : s.lock = some f)
    (hcontent : f.content ≠ none) (hstale : f.writtenAt + env.config.staleAfterMs ≤ s.time) (q : Nat) :
    (s.phase q).owner = none := by
  have howns := hs.owns q
  have hbrief := hs.brief q
  cases hq : s.phase q with
  | writing t now =>
    rw [hq, hlock] at howns
    obtain ⟨f', hf, -, hnone⟩ := howns
    cases hf
    exact absurd hnone hcontent
  | holding t n | releasing t n | unlinking t n =>
    rw [hq, hlock] at howns
    obtain ⟨f', hf, -, rfl⟩ := howns
    cases hf
    have := hbrief f.writtenAt (by rw [hq]; rfl)
    omega
  | _ => rfl

theorem Exclusive.inspect (hs : Exclusive env s) {token : JsString} {deadline now : Nat} {f : LockFile}
    (hp : s.phase p = .inspecting token deadline now) :
    Exclusive env (inspect env s p token deadline now f).1 := by
  have hgo : ∀ ph : Phase, ph.token = some token → ph.owner = none → ph.heldSince = none →
      Exclusive env (s.goto p ph) := by
    intro ph ht ho hh
    refine hs.stay rfl rfl rfl rfl (fun t h => ?_) (fun n h => ?_) (.of_owner_none ho)
    · rw [hp]
      exact ht.symm.trans h
    · rw [hh] at h
      cases h
  unfold RouteGuard.Store.inspect
  split
  · exact hs.leave p
  · split
    · exact hgo _ rfl rfl rfl
    · split
      · exact hs.leave p
      · split
        · exact hs.leave p
        · exact hgo _ rfl rfl rfl

theorem Exclusive.advance {r : Option LockOutcome} (hs : Exclusive env s)
    (hcond : reclaimsInspected env s (.advance p) = true) (h : advance env s p = some (s', r)) :
    Exclusive env s' := by
  unfold RouteGuard.Store.advance at h
  cases hp : s.phase p with
  | idle => simp [hp] at h
  | looping token deadline | discarding token deadline | waiting token deadline =>
    simp only [hp] at h
    cases h
    exact hs.stay rfl rfl rfl rfl (by simp [hp, Phase.token]) nofun trivial
  | creating token deadline now =>
    simp only [hp] at h
    split at h
    · next hlock =>
      cases h
      -- the path was free, so nobody owned it
      refine hs.move rfl rfl rfl (by simp [hp, Phase.token]) nofun ⟨_, rfl, rfl, rfl⟩ fun q _ => ?_
      exact .of_owner_none (hs.absent hlock q)
    · cases h
      exact hs.stay rfl rfl rfl rfl (by simp [hp, Phase.token]) nofun trivial
  | writing token now =>
    simp only [hp] at h
    cases h
    have howns := hs.owns p
    rw [hp] at howns
    obtain ⟨f, hf, hcreator, -⟩ := howns
    refine hs.move rfl rfl rfl (by simp [hp, Phase.token]) ?_ ?_ fun q hq => ?_
    · rintro n ⟨⟩
      have := env.config.stale_mem.1
      omega
    · simp only [LockWorld.goto, LockWorld.writeThrough, hf, Option.map_some, hcreator]
      exact ⟨_, rfl, by simp, by simp⟩
    · exact .of_owner_none (hs.sole (by rw [hp]; rfl) hq)
  | inspecting token deadline now =>
    simp only [hp] at h
    split at h
    · cases h
      exact hs.stay rfl rfl rfl rfl (by simp [hp, Phase.token]) nofun trivial
    · next f hlock =>
      have := hs.inspect (f := f) hp
      simp only [Option.some.injEq] at h
      rwa [h] at this
  | reclaiming token deadline inspected =>
    simp only [hp] at h
    split at h
    · cases h
      exact hs.stay rfl rfl rfl rfl (by simp [hp, Phase.token]) nofun trivial
    · next f hlock =>
      cases h
      simp only [reclaimsInspected, hp, hlock, Bool.and_eq_true, decide_eq_true_eq] at hcond
      have hcontent : f.content ≠ none := by
        intro hnone
        rw [hnone] at hcond
        cases hcond.1
      refine hs.move rfl rfl rfl (by simp [hp, Phase.token]) nofun trivial fun q _ => ?_
      exact .of_owner_none (hs.stale_unowned hlock hcontent hcond.2 q)
  | checking token deadline inspected =>
    simp only [hp] at h
    split at h
    · cases h
      exact hs.leave p
    · split at h
      · cases h
        exact hs.stay rfl rfl rfl rfl (by simp [hp, Phase.token]) nofun trivial
      · cases h
        exact hs.leave p
  | holding token since =>
    simp only [hp] at h
    cases h
    have howns := hs.owns p
    rw [hp] at howns
    exact hs.stay rfl rfl rfl rfl (by simp [hp, Phase.token]) (by simp [hp, Phase.heldSince]) howns
  | releasing token since =>
    simp only [hp] at h
    split at h
    · cases h
      have howns := hs.owns p
      rw [hp] at howns
      exact hs.stay rfl rfl rfl rfl (by simp [hp, Phase.token]) (by simp [hp, Phase.heldSince]) howns
    · cases h
      exact hs.leave p
  | unlinking token since =>
    simp only [hp] at h
    cases h
    refine hs.move rfl rfl rfl nofun nofun trivial fun q hq => ?_
    exact .of_owner_none (hs.sole (by rw [hp]; rfl) hq)

theorem Exclusive.enter {token : JsString} {deadline : Nat} (hs : Exclusive env s)
    (hfresh : token ∉ s.issued) :
    Exclusive env (({ s with issued := token :: s.issued } : LockWorld).goto p (.looping token deadline)) := by
  have hkind : ∀ q, (q = p ∧ (Function.update s.phase p (.looping token deadline) q) = .looping token deadline) ∨
      (q ≠ p ∧ (Function.update s.phase p (.looping token deadline) q) = s.phase q) := by
    intro q
    by_cases hq : q = p
    · subst hq
      exact .inl ⟨rfl, Function.update_self ..⟩
    · exact .inr ⟨hq, Function.update_of_ne hq ..⟩
  -- a token in use was issued before, so it is not the fresh one
  have hused : ∀ q t, (s.phase q).token = some t → t ≠ token := by
    rintro q t ht rfl
    exact hfresh (hs.issued q t ht)
  refine ⟨fun q n hn => ?_, fun q t ht => ?_, fun q r t hq hr => ?_, fun q => ?_⟩
  · rcases hkind q with ⟨-, he⟩ | ⟨-, he⟩ <;> simp only [LockWorld.goto, he] at hn
    · cases hn
    · exact hs.brief q n hn
  · rcases hkind q with ⟨-, he⟩ | ⟨-, he⟩ <;> simp only [LockWorld.goto, he] at ht
    · cases ht
      exact List.mem_cons_self
    · exact List.mem_cons_of_mem _ (hs.issued q t ht)
  · rcases hkind q with ⟨hqp, he⟩ | ⟨-, he⟩ <;> rcases hkind r with ⟨hrp, he'⟩ | ⟨-, he'⟩ <;>
      simp only [LockWorld.goto, he, he'] at hq hr
    · exact hqp.trans hrp.symm
    · cases hq
      exact absurd rfl (hused r _ hr)
    · cases hr
      exact absurd rfl (hused q _ hq)
    · exact hs.distinct q r t hq hr
  · rcases hkind q with ⟨-, he⟩ | ⟨-, he⟩ <;> simp only [LockWorld.goto, he]
    · trivial
    · exact hs.owns q

theorem Exclusive.step {l : LockLabel} (hs : Exclusive env s) (hbrief : HeldBriefly env s l)
    (hcond : reclaimsInspected env s l = true) (h : LockStep env s l s') : Exclusive env s' := by
  cases h with
  | tick ms => exact ⟨hbrief, hs.issued, hs.distinct, hs.owns⟩
  | enter _ hfresh => exact hs.enter hfresh
  | advance h => exact hs.advance hcond h
  | lost => exact hs.leave _

end Exclusion

/-! ## The result -/

/-- Processes that hold the lock briefly, with every reclamation as it is meant to be. -/
def orderlyLockSystem (env : LockEnv) : System LockWorld LockLabel :=
  (lockSystem env).restrict fun s l => HeldBriefly env s l ∧ reclaimsInspected env s l = true

theorem exclusive_of_run {env : LockEnv} {ls : List LockLabel} {s : LockWorld}
    (h : (orderlyLockSystem env).Run ls s) : Exclusive env s := by
  refine System.Run.induction (S := orderlyLockSystem env) (I := fun _ s => Exclusive env s) ?_ ?_ h
  · intro s hs
    refine ⟨?_, ?_, ?_, ?_⟩ <;> simp [hs.idle, Phase.heldSince, Phase.token, OwnsFile]
  · rintro _ _ _ _ _ hs ⟨hstep, hbrief, hcond⟩
    exact hs.step hbrief hcond hstep

/-- **Mutual exclusion.** Any number of processes, interleaved at every file operation and lost at any:
if none holds the lock for `staleAfterMs` or longer and every reclamation renames the file it inspected,
completed at least `staleAfterMs` before, then at most one process is between a successful acquire and
the end of its release. -/
theorem lock_exclusive (env : LockEnv) {ls : List LockLabel} {s : LockWorld}
    (h : (orderlyLockSystem env).Run ls s) (p q : Nat) (hp : (s.phase p).heldSince.isSome)
    (hq : (s.phase q).heldSince.isSome) : p = q := by
  have hs := exclusive_of_run h
  obtain ⟨n, hn⟩ := Option.isSome_iff_exists.mp hp
  obtain ⟨m, hm⟩ := Option.isSome_iff_exists.mp hq
  obtain ⟨t, ht⟩ := Phase.owner_of_heldSince hn
  obtain ⟨t', ht'⟩ := Phase.owner_of_heldSince hm
  by_contra hne
  rw [hs.sole ht (Ne.symm hne)] at ht'
  cases ht'

/-! ## Three contenders for a stale lock -/

namespace Displaced

def env : LockEnv where
  config := defaultFileLockConfig
  tenderId := js "T-1"
  host _ := js "node"

/-- A lock that a dead process left 70 seconds ago. -/
def start : LockWorld where
  time := 70000
  lock := some ⟨js "token-dead", some ⟨1, js "node", js "token-dead", js "T-1", 0⟩, 0⟩
  aside _ := none
  issued := [js "token-dead"]
  phase _ := .idle

theorem start_lockStart : LockStart env start := by
  refine ⟨rfl, rfl, ?_⟩
  rintro f ⟨⟩
  exact ⟨_, rfl, by decide, rfl, rfl, List.mem_singleton_self _⟩

/-- A step of a process, or a call, as long as the check allows it; time stands still. -/
def next (check : LockWorld → LockLabel → Bool) (s : LockWorld) (l : LockLabel) : Option LockWorld :=
  if check s l then
    match l with
    | .enter p token =>
      if s.phase p = .idle ∧ token ∉ s.issued then
        some (({ s with issued := token :: s.issued } : LockWorld).goto p (.looping token (s.time + 5000)))
      else none
    | .advance p => (advance env s p).map Prod.fst
    | _ => none
  else none

theorem next_step {check : LockWorld → LockLabel → Bool} {s t : LockWorld} {l : LockLabel}
    (h : next check s l = some t) : LockStep env s l t ∧ HeldBriefly env s l ∧ check s l = true := by
  unfold next at h
  split at h
  · next hcheck =>
    split at h
    · split at h
      · next hidle =>
        cases h
        exact ⟨.enter hidle.1 hidle.2, trivial, hcheck⟩
      · cases h
    · obtain ⟨⟨s', r⟩, ha, rfl⟩ := Option.map_eq_some_iff.mp h
      exact ⟨.advance ha, trivial, hcheck⟩
    · cases h
  · cases h

/-- The token of a call of process 1. -/
def uuid : JsString := js "0f0f0f0f-0000-4000-8000-000000000001"

/-- Process 0 replaces the stale lock with its own, and process 1 finds it held. -/
def contended : List LockLabel :=
  .enter 0 (js "0f0f0f0f-0000-4000-8000-000000000000") :: .enter 1 uuid ::
    (List.replicate 9 0 ++ List.replicate 3 1).map LockLabel.advance

/-- Processes 0 and 1 both inspect the stale lock; process 0 replaces it with its own; process 1 renames
that one away; process 2 finds the path free. -/
def race : List LockLabel :=
  .enter 0 (js "token-0") :: .enter 1 (js "token-1") ::
    ((List.replicate 3 0 ++ List.replicate 3 1 ++ List.replicate 6 0 ++ [1]).map LockLabel.advance ++
      LockLabel.enter 2 (js "token-2") :: List.replicate 3 (LockLabel.advance 2))

end Displaced

/-- The second contender waits for the lock of the first. -/
theorem lock_exclusive_contended :
    ∃ s, (orderlyLockSystem Displaced.env).Run Displaced.contended s ∧ (s.phase 0).heldSince.isSome ∧
      s.phase 1 = .waiting Displaced.uuid 75000 ∧ ∀ q, (s.phase q).heldSince.isSome → 0 = q := by
  have hexec : ∃ s ∈ System.execute (Displaced.next (reclaimsInspected Displaced.env)) Displaced.contended
      Displaced.start, (s.phase 0).heldSince.isSome ∧ s.phase 1 = .waiting Displaced.uuid 75000 := by
    decide
  obtain ⟨s, hs, hheld, hwaits⟩ := hexec
  have hrun : (orderlyLockSystem Displaced.env).Run Displaced.contended s :=
    ⟨_, Displaced.start_lockStart, .of_execute (fun _ _ _ h => Displaced.next_step h) hs⟩
  exact ⟨s, hrun, hheld, hwaits, fun q hq => lock_exclusive Displaced.env hrun 0 q hheld hq⟩

theorem displaced_lock_held_twice :
    ∃ s, ((lockSystem Displaced.env).restrict (HeldBriefly Displaced.env)).Run Displaced.race s ∧
      (s.phase 0).heldSince.isSome ∧ (s.phase 2).heldSince.isSome := by
  have hexec : ∃ s ∈ System.execute (Displaced.next fun _ _ => true) Displaced.race Displaced.start,
      (s.phase 0).heldSince.isSome ∧ (s.phase 2).heldSince.isSome := by
    decide
  obtain ⟨s, hs, hheld⟩ := hexec
  refine ⟨s, ⟨_, Displaced.start_lockStart, .of_execute (fun _ _ _ h => ?_) hs⟩, hheld⟩
  exact ⟨(Displaced.next_step h).1, (Displaced.next_step h).2.1⟩

end RouteGuard.Store
