import RouteGuard.Lib.Rely

/-!
# Monitors of single programs, and programs over programs

What a program does in its own order, whatever the other programs of its pool do: a monitor reads the calls of one
program with their answers, and says which call may come next.

* `Prog.handle` : a program whose calls are programs themselves;
* `Monitor` : a state moved by every answered call, the answers that are considered, the calls that are in order;
* `Prog.Follows` : every call of a program is in order; `Follows.bind`, `Follows.mono`, `Follows.handle`;
* `Prog.FollowsM` : the same for programs that may fail;
* `Monitor.watched_of_run` : in every run of a pool, every program in flight follows the monitor from where its own calls
  have brought it; `Monitor.Watched.ok` : every call that is made is in order;
* `Monitor.phase` : where each program of a run stands;
* `Monitor.stateless` : the calls a program may make, `Monitor.calls_of_run` : in every run, with the input of the request;
* `Monitor.recorder` : the calls themselves; `Monitor.returned_of_run` : what a program has called when it returns.
-/

section Handle
variable {Op Op' : Type} {Ans : Op → Type} {Ans' : Op' → Type} {ε α β : Type}

/-- The program with every call carried out by `h`. -/
def Prog.handle (h : (op : Op) → Prog Op' Ans' (Ans op)) : Prog Op Ans α → Prog Op' Ans' α
  | .ret a => .ret a
  | .call op k => h op >>= fun r => (k r).handle h

variable {h : (op : Op) → Prog Op' Ans' (Ans op)}

@[simp] theorem Prog.handle_ret (a : α) : (Prog.ret a : Prog Op Ans α).handle h = .ret a := rfl

@[simp] theorem Prog.handle_call (op : Op) (k : Ans op → Prog Op Ans α) :
    (Prog.call op k).handle h = h op >>= fun r => (k r).handle h := rfl

end Handle

/-- What is watched of one program. -/
structure Monitor (μ : Type) (Op : Type) (Ans : Op → Type) where
  start : μ
  next : μ → (op : Op) → Ans op → μ
  /-- The answers that are considered. -/
  may : (op : Op) → Ans op → Prop
  /-- The calls that are in order. -/
  ok : μ → Op → Prop

section Follows
variable {μ Op : Type} {Ans : Op → Type} {α β : Type} (M : Monitor μ Op Ans)

/-- Every call of the program is in order, as long as the answers are those considered; its result meets `Q`. -/
def Prog.Follows (Q : μ → α → Prop) : μ → Prog Op Ans α → Prop
  | m, .ret a => Q m a
  | m, .call op k => M.ok m op ∧ ∀ r, M.may op r → Prog.Follows Q (M.next m op r) (k r)

variable {M} {Q Q' : μ → α → Prop} {m : μ}

namespace Prog

@[simp] theorem follows_ret {a : α} : (Prog.ret a : Prog Op Ans α).Follows M Q m ↔ Q m a := Iff.rfl

theorem Follows.mono {p : Prog Op Ans α} (h : p.Follows M Q m) (hQ : ∀ m a, Q m a → Q' m a) : p.Follows M Q' m := by
  induction p generalizing m with
  | ret a => exact hQ m a h
  | call op k ih => exact ⟨h.1, fun r hr => ih r (h.2 r hr)⟩

theorem Follows.and {p : Prog Op Ans α} (h : p.Follows M Q m) (h' : p.Follows M Q' m) :
    p.Follows M (fun m a => Q m a ∧ Q' m a) m := by
  induction p generalizing m with
  | ret a => exact ⟨h, h'⟩
  | call op k ih => exact ⟨h.1, fun r hr => ih r (h.2 r hr) (h'.2 r hr)⟩

theorem Follows.bind {p : Prog Op Ans α} {f : α → Prog Op Ans β} {R : μ → β → Prop}
    (h : p.Follows M (fun m a => (f a).Follows M R m) m) : (p >>= f).Follows M R m := by
  induction p generalizing m with
  | ret a => exact h
  | call op k ih => exact ⟨h.1, fun r hr => ih r (h.2 r hr)⟩

theorem Follows.perform {op : Op} {Q : μ → Ans op → Prop} (hok : M.ok m op)
    (hQ : ∀ r, M.may op r → Q (M.next m op r) r) : (Prog.perform op : Prog Op Ans (Ans op)).Follows M Q m :=
  ⟨hok, hQ⟩

/-- A program that follows `N` follows `M` when its calls are carried out so that `M` sees what `N` sees. -/
theorem Follows.handle {Op' : Type} {Ans' : Op' → Type} {N : Monitor μ Op' Ans'}
    {h : (op : Op') → Prog Op Ans (Ans' op)}
    (hh : ∀ m op, N.ok m op → (h op).Follows M (fun m' r => m' = N.next m op r ∧ N.may op r) m)
    {p : Prog Op' Ans' α} (hp : p.Follows N Q m) : (p.handle h).Follows M Q m := by
  induction p generalizing m with
  | ret a => exact hp
  | call op k ih =>
    refine Follows.bind ((hh m op hp.1).mono ?_)
    rintro _ r ⟨rfl, hr⟩
    exact ih r (hp.2 r hr)

/-- A coarser monitor, whose states are related to those of the finer one. -/
theorem Follows.coarsen {ν : Type} {N : Monitor ν Op Ans} {R : μ → ν → Prop}
    (hok : ∀ m n op, R m n → M.ok m op → N.ok n op) (hmay : ∀ op r, N.may op r → M.may op r)
    (hnext : ∀ m n op r, R m n → M.ok m op → R (M.next m op r) (N.next n op r)) {p : Prog Op Ans α} {n : ν}
    (h : p.Follows M Q m) (hmn : R m n) : p.Follows N (fun n a => ∃ m, R m n ∧ Q m a) n := by
  induction p generalizing m n with
  | ret a => exact ⟨m, hmn, h⟩
  | call op k ih => exact ⟨hok m n op hmn h.1, fun r hr => ih r (h.2 r (hmay op r hr)) (hnext m n op r hmn h.1)⟩

end Prog

end Follows

/-! ## Programs that may fail -/

section Fallible
variable {μ Op : Type} {Ans : Op → Type} {ε α β : Type} (M : Monitor μ Op Ans)

/-- Results meet `Q`, errors meet `E`. -/
def Prog.FollowsM (Q : μ → α → Prop) (E : μ → ε → Prop) (x : ExceptT ε (Prog Op Ans) α) (m : μ) : Prop :=
  x.run.Follows M (fun m r => match r with | .ok a => Q m a | .error e => E m e) m

variable {M} {Q Q' : μ → α → Prop} {E : μ → ε → Prop} {m : μ}

namespace Prog.FollowsM

theorem pure {a : α} (h : Q m a) : FollowsM M Q E (Pure.pure a : ExceptT ε (Prog Op Ans) α) m := h

theorem throw {e : ε} (h : E m e) : FollowsM M Q E (MonadExcept.throw e : ExceptT ε (Prog Op Ans) α) m := h

/-- A computation without calls. -/
theorem ofExcept {x : Except ε α} (hok : ∀ a, x = .ok a → Q m a) (herror : ∀ e, x = .error e → E m e) :
    FollowsM M Q E (ExceptT.mk (Pure.pure x) : ExceptT ε (Prog Op Ans) α) m := by
  cases x with
  | ok a => exact hok a rfl
  | error e => exact herror e rfl

theorem bind {x : ExceptT ε (Prog Op Ans) α} {f : α → ExceptT ε (Prog Op Ans) β} {R : μ → β → Prop}
    (h : FollowsM M (fun m a => FollowsM M R E (f a) m) E x m) : FollowsM M R E (x >>= f) m := by
  refine Follows.bind (p := x.run) (f := fun r => ExceptT.bindCont f r) ?_
  refine Follows.mono h ?_
  intro m' r hr
  cases r with
  | ok a => exact hr
  | error e => exact hr

theorem map {x : ExceptT ε (Prog Op Ans) α} (f : α → β) {R : μ → β → Prop}
    (h : FollowsM M (fun m a => R m (f a)) E x m) : FollowsM M R E (f <$> x) m := by
  refine Follows.bind (p := x.run) (Follows.mono h ?_)
  intro m' r hr
  cases r with
  | ok a => exact hr
  | error e => exact hr

theorem mono {x : ExceptT ε (Prog Op Ans) α} (h : FollowsM M Q E x m) (hQ : ∀ m a, Q m a → Q' m a) :
    FollowsM M Q' E x m := by
  refine Follows.mono h ?_
  intro m' r hr
  cases r with
  | ok a => exact hQ m' a hr
  | error e => exact hr

theorem mono_error {E' : μ → ε → Prop} {x : ExceptT ε (Prog Op Ans) α} (h : FollowsM M Q E x m)
    (hE : ∀ m e, E m e → E' m e) : FollowsM M Q E' x m := by
  refine Follows.mono h ?_
  intro m' r hr
  cases r with
  | ok a => exact hr
  | error e => exact hE m' e hr

/-- A call that answers with a result or an error of its own. -/
theorem call (op : Op) {x : ExceptT ε (Prog Op Ans) α} (g : Ans op → Except ε α)
    (hx : x = ExceptT.mk (Prog.call op fun r => .ret (g r))) (hok : M.ok m op)
    (hQ : ∀ r a, M.may op r → g r = .ok a → Q (M.next m op r) a)
    (hE : ∀ r e, M.may op r → g r = .error e → E (M.next m op r) e) : FollowsM M Q E x m := by
  subst hx
  refine ⟨hok, fun r hr => ?_⟩
  show match g r with | .ok a => Q (M.next m op r) a | .error e => E (M.next m op r) e
  cases hg : g r with
  | ok a => exact hQ r a hr hg
  | error e => exact hE r e hr hg

/-- A call without an error of its own. -/
theorem lift {p : Prog Op Ans α} (h : p.Follows M Q m) :
    FollowsM M Q E (ExceptT.lift p : ExceptT ε (Prog Op Ans) α) m :=
  Follows.bind h

/-- A program whose results and errors are not asked about. -/
theorem follows {x : ExceptT ε (Prog Op Ans) α} (h : FollowsM M (fun _ _ => True) (fun _ _ => True) x m) :
    x.run.Follows M (fun _ _ => True) m :=
  Follows.mono h fun _ _ _ => trivial

/-- A handler takes over where the errors of the body leave off. -/
theorem tryCatch {E' : μ → ε → Prop} {x : ExceptT ε (Prog Op Ans) α} {f : ε → ExceptT ε (Prog Op Ans) α}
    (h : FollowsM M Q E' x m) (hf : ∀ m e, E' m e → FollowsM M Q E (f e) m) :
    FollowsM M Q E (tryCatchThe ε x f) m := by
  refine Follows.bind (p := x.run) (Follows.mono h ?_)
  intro m' r hr
  cases r with
  | ok a => exact hr
  | error e => exact hf m' e hr

end Prog.FollowsM

end Fallible

/-! ## Pools of monitored programs -/

section Pool
variable {μ σ ι Op : Type} {Ans : Op → Type} {α : Type} {M : Monitor μ Op Ans}

/-- Where the calls of a program have brought the monitor. -/
def Monitor.after (M : Monitor μ Op Ans) (own : List ((op : Op) × Ans op)) : μ :=
  own.foldl (fun m c => M.next m c.1 c.2) M.start

theorem Monitor.after_concat (own : List ((op : Op) × Ans op)) (op : Op) (r : Ans op) :
    M.after (own ++ [⟨op, r⟩]) = M.next (M.after own) op r := by
  rw [Monitor.after, List.foldl_append]
  rfl

theorem ownCalls_concat (n : Nat) (ls : List (PoolLabel ι Op Ans)) (l : PoolLabel ι Op Ans) :
    ownCalls n (ls ++ [l]) = l.ownCalls n (ownCalls n ls) := by
  rw [ownCalls, List.foldl_append]
  rfl

variable {Q : μ → α → Prop} {main : ι → Prog Op Ans α} {effect : σ → (op : Op) → Ans op → σ → Prop} {init : σ → Prop}
  {C : Pool σ Op Ans α → PoolLabel ι Op Ans → Prop}

/-- Every program in flight follows the monitor from where its own calls have brought it. -/
def Monitor.Watched (M : Monitor μ Op Ans) (Q : μ → α → Prop) (ls : List (PoolLabel ι Op Ans))
    (s : Pool σ Op Ans α) : Prop :=
  ∀ n p, s.threads n = some p → p.Follows M Q (M.after (ownCalls n ls))

theorem Monitor.Watched.step {ls : List (PoolLabel ι Op Ans)} {l : PoolLabel ι Op Ans} {s t : Pool σ Op Ans α}
    (hmain : ∀ input, (main input).Follows M Q M.start) (h : M.Watched Q ls s) (hstep : PoolStep main effect s l t)
    (hmay : ∀ n op r, l = .call n op r → M.may op r) : M.Watched Q (ls ++ [l]) t := by
  intro n p hp
  rw [ownCalls_concat]
  cases hstep with
  | @start m input hm =>
    by_cases hmn : m = n
    · subst hmn
      rw [Pool.put_threads_self] at hp
      cases hp
      rw [PoolLabel.ownCalls, if_pos rfl]
      exact hmain input
    · rw [Pool.put_threads_of_ne _ _ _ (Ne.symm hmn)] at hp
      rw [PoolLabel.ownCalls, if_neg hmn]
      exact h n p hp
  | @call m op k r w hm heffect =>
    by_cases hmn : m = n
    · subst hmn
      rw [Pool.put_threads_self] at hp
      cases hp
      rw [PoolLabel.ownCalls, if_pos rfl, Monitor.after_concat]
      exact (h m _ hm).2 r (hmay m op r rfl)
    · rw [Pool.put_threads_of_ne _ _ _ (Ne.symm hmn)] at hp
      rw [PoolLabel.ownCalls, if_neg hmn]
      exact h n p hp
  | @lost m =>
    by_cases hmn : m = n
    · subst hmn
      rw [Pool.put_threads_self] at hp
      cases hp
    · rw [Pool.put_threads_of_ne _ _ _ (Ne.symm hmn)] at hp
      rw [PoolLabel.ownCalls, if_neg hmn]
      exact h n p hp

theorem Monitor.watched_of_run (hmain : ∀ input, (main input).Follows M Q M.start)
    (hmay : ∀ ls s n op r w, ((poolSystem main effect init).restrict C).Run ls s → effect s.shared op r w →
      C s (.call n op r) → M.may op r)
    {ls : List (PoolLabel ι Op Ans)} {s : Pool σ Op Ans α}
    (hrun : ((poolSystem main effect init).restrict C).Run ls s) : M.Watched Q ls s := by
  refine System.Run.induction (S := (poolSystem main effect init).restrict C) (I := fun ls s => M.Watched Q ls s) ?_ ?_
    hrun
  · intro s hs n p hp
    rw [hs.2] at hp
    cases hp
  · rintro ls s l t hrun ih ⟨hstep, hc⟩
    refine ih.step hmain hstep ?_
    rintro n op r rfl
    cases hstep with
    | call hn heffect => exact hmay ls s n op r _ hrun heffect hc

/-- Where each program stands. -/
def Monitor.phase (M : Monitor μ Op Ans) (ls : List (PoolLabel ι Op Ans)) (n : Nat) : μ := M.after (ownCalls n ls)

theorem Monitor.phase_start (ls : List (PoolLabel ι Op Ans)) (n : Nat) (input : ι) :
    M.phase (ls ++ [.start n input]) = Function.update (M.phase ls) n M.start := by
  funext m
  rw [Monitor.phase, ownCalls_concat, PoolLabel.ownCalls, Function.update_apply]
  by_cases h : n = m
  · rw [if_pos h, if_pos h.symm]
    rfl
  · rw [if_neg h, if_neg (Ne.symm h)]
    rfl

theorem Monitor.phase_lost (ls : List (PoolLabel ι Op Ans)) (n : Nat) :
    M.phase (ls ++ [.lost n]) = Function.update (M.phase ls) n M.start := by
  funext m
  rw [Monitor.phase, ownCalls_concat, PoolLabel.ownCalls, Function.update_apply]
  by_cases h : n = m
  · rw [if_pos h, if_pos h.symm]
    rfl
  · rw [if_neg h, if_neg (Ne.symm h)]
    rfl

theorem Monitor.phase_call (ls : List (PoolLabel ι Op Ans)) (n : Nat) (op : Op) (r : Ans op) :
    M.phase (ls ++ [.call n op r]) = Function.update (M.phase ls) n (M.next (M.phase ls n) op r) := by
  funext m
  rw [Monitor.phase, ownCalls_concat, PoolLabel.ownCalls, Function.update_apply]
  by_cases h : n = m
  · subst h
    rw [if_pos rfl, if_pos rfl]
    exact M.after_concat _ op r
  · rw [if_neg h, if_neg (Ne.symm h)]
    rfl

/-- Where no program runs, none has moved its monitor. -/
theorem Monitor.phase_of_none {ls : List (PoolLabel ι Op Ans)} {s : Pool σ Op Ans α}
    (h : (poolSystem main effect init).Run ls s) : ∀ n, s.threads n = none → M.phase ls n = M.start := by
  refine System.Run.induction (S := poolSystem main effect init)
    (I := fun ls s => ∀ n, s.threads n = none → M.phase ls n = M.start) (fun _ _ _ _ => rfl) ?_ h
  intro ls s l t _ ih hstep n hn
  cases hstep with
  | @start m input hm =>
    rw [Monitor.phase_start, Function.update_apply]
    split
    · rfl
    · next hne => exact ih n ((Pool.put_threads_of_ne s _ _ hne).symm.trans hn)
  | @call m op k r w hm heffect =>
    rw [Monitor.phase_call, Function.update_apply]
    split
    · next heq =>
      rw [heq, Pool.put_threads_self] at hn
      cases hn
    · next hne => exact ih n ((Pool.put_threads_of_ne s _ _ hne).symm.trans hn)
  | @lost m =>
    rw [Monitor.phase_lost, Function.update_apply]
    split
    · rfl
    · next hne => exact ih n ((Pool.put_threads_of_ne s _ _ hne).symm.trans hn)

/-- The call a program makes next is in order. -/
theorem Monitor.Watched.ok {ls : List (PoolLabel ι Op Ans)} {s : Pool σ Op Ans α} {n : Nat} {op : Op}
    {k : Ans op → Prog Op Ans α} (h : M.Watched Q ls s) (hn : s.threads n = some (.call op k)) :
    M.ok (M.after (ownCalls n ls)) op :=
  (h n _ hn).1

end Pool

/-! ## Which calls a request makes -/

section Stateless
variable {σ ι Op : Type} {Ans : Op → Type} {α : Type} {may : (op : Op) → Ans op → Prop}

/-- The monitor without a state: which calls are in order does not change. -/
def Monitor.stateless (may : (op : Op) → Ans op → Prop) (ok : Op → Prop) : Monitor Unit Op Ans where
  start := ()
  next _ _ _ := ()
  may := may
  ok _ := ok

theorem Prog.Follows.weaken {ok ok' : Op → Prop} {Q : Unit → α → Prop} {p : Prog Op Ans α}
    (h : p.Follows (Monitor.stateless may ok) Q ()) (hok : ∀ op, ok op → ok' op) :
    p.Follows (Monitor.stateless may ok') Q () := by
  induction p with
  | ret a => exact h
  | call op k ih => exact ⟨hok op h.1, fun r hr => ih r (h.2 r hr)⟩

variable {main : ι → Prog Op Ans α} {effect : σ → (op : Op) → Ans op → σ → Prop} {init : σ → Prop}
  {ls : List (PoolLabel ι Op Ans)} {s : Pool σ Op Ans α}

/-- In every run, each call is one of those that the input of its request allows. -/
theorem Monitor.calls_of_run {ok : ι → Op → Prop}
    (hmain : ∀ input, (main input).Follows (Monitor.stateless may (ok input)) (fun _ _ => True) ())
    (hmay : ∀ ls s op r w, (poolSystem main effect init).Run ls s → effect s.shared op r w → may op r)
    (hrun : (poolSystem main effect init).Run ls s) :
    ∀ n op r, .call n op r ∈ ls → ∃ input, .start n input ∈ ls ∧ ok input op := by
  have hall : (∀ n op r, .call n op r ∈ ls → ∃ input, .start n input ∈ ls ∧ ok input op) ∧
      ∀ n p, s.threads n = some p → ∃ input, .start n input ∈ ls ∧
        p.Follows (Monitor.stateless may (ok input)) (fun _ _ => True) () := by
    refine System.Run.induction (S := poolSystem main effect init)
      (I := fun ls s => (∀ n op r, .call n op r ∈ ls → ∃ input, .start n input ∈ ls ∧ ok input op) ∧
        ∀ n p, s.threads n = some p → ∃ input, .start n input ∈ ls ∧
          p.Follows (Monitor.stateless may (ok input)) (fun _ _ => True) ()) ?_ ?_ hrun
    · intro s hs
      refine ⟨fun n op r h => (by cases h), fun n p hp => ?_⟩
      rw [hs.2] at hp
      cases hp
    · rintro ls s l t hrun ⟨hcalls, hthreads⟩ hstep
      -- what was started stays started
      have hkept {n : Nat} {p : ι → Prop} (h : ∃ input, .start n input ∈ ls ∧ p input) :
          ∃ input, .start n input ∈ ls ++ [l] ∧ p input :=
        h.imp fun input h => ⟨List.mem_append_left _ h.1, h.2⟩
      have hother {m n : Nat} {w : σ} {q : Option (Prog Op Ans α)} {p : Prog Op Ans α} (hne : n ≠ m)
          (hp : (s.put w m q).threads n = some p) : ∃ input, .start n input ∈ ls ++ [l] ∧
            p.Follows (Monitor.stateless may (ok input)) (fun _ _ => True) () := by
        rw [Pool.put_threads_of_ne _ _ _ hne] at hp
        exact hkept (hthreads n p hp)
      refine ⟨fun n op r h => ?_, fun n p hp => ?_⟩
      · rcases List.mem_append.mp h with h | h
        · exact hkept (hcalls n op r h)
        · cases List.mem_singleton.mp h
          cases hstep with
          | call hn heffect => exact hkept ((hthreads n _ hn).imp fun input h => ⟨h.1, h.2.1⟩)
      · cases hstep with
        | @start m input hm =>
          by_cases hmn : n = m
          · subst hmn
            rw [Pool.put_threads_self] at hp
            cases hp
            exact ⟨input, List.mem_append_right _ (List.mem_singleton_self _), hmain input⟩
          · exact hother hmn hp
        | @call m op k r w hm heffect =>
          by_cases hmn : n = m
          · subst hmn
            rw [Pool.put_threads_self] at hp
            cases hp
            obtain ⟨input, hstarted, h⟩ := hthreads n _ hm
            exact ⟨input, List.mem_append_left _ hstarted, h.2 r (hmay ls s op r w hrun heffect)⟩
          · exact hother hmn hp
        | @lost m =>
          by_cases hmn : n = m
          · subst hmn
            rw [Pool.put_threads_self] at hp
            cases hp
          · exact hother hmn hp
  exact hall.1

end Stateless

/-! ## The calls themselves -/

section Recorder
variable {ι Op : Type} {Ans : Op → Type} {α : Type}

/-- The monitor that keeps the calls with their answers; every call is in order. -/
def Monitor.recorder : Monitor (List ((op : Op) × Ans op)) Op Ans where
  start := []
  next own op r := own ++ [⟨op, r⟩]
  may _ _ := True
  ok _ _ := True

theorem Monitor.recorder_after (own : List ((op : Op) × Ans op)) : Monitor.recorder.after own = own := by
  induction own using List.reverseRecOn with
  | nil => rfl
  | append_singleton own c ih =>
    obtain ⟨op, r⟩ := c
    rw [Monitor.after_concat, ih]
    rfl

/-- Whatever a program does, its calls only grow. -/
theorem Prog.Follows.recorded (p : Prog Op Ans α) (own : List ((op : Op) × Ans op)) :
    p.Follows Monitor.recorder (fun own' _ => own <+: own') own := by
  induction p generalizing own with
  | ret a => exact List.prefix_refl own
  | call op k ih =>
    refine ⟨trivial, fun r _ => ?_⟩
    refine Follows.mono (ih r (own ++ [⟨op, r⟩])) ?_
    exact fun _ _ h => (List.prefix_append own _).trans h

section Pool
variable {σ : Type} {Q : List ((op : Op) × Ans op) → α → Prop} {main : ι → Prog Op Ans α}
  {effect : σ → (op : Op) → Ans op → σ → Prop} {init : σ → Prop} {ls : List (PoolLabel ι Op Ans)} {s : Pool σ Op Ans α}

/-- In every run, a program that has returned meets the postcondition with the calls it made. -/
theorem Monitor.returned_of_run (hmain : ∀ input, (main input).Follows Monitor.recorder Q [])
    (hrun : (poolSystem main effect init).Run ls s) {n : Nat} {a : α} (h : s.threads n = some (.ret a)) :
    Q (ownCalls n ls) a := by
  have hwatched : Monitor.recorder.Watched Q ls s := by
    refine System.Run.induction (S := poolSystem main effect init) (I := fun ls s => Monitor.recorder.Watched Q ls s)
      ?_ ?_ hrun
    · intro s hs n p hp
      rw [hs.2] at hp
      cases hp
    · intro ls s l t _ ih hstep
      exact ih.step hmain hstep fun _ _ _ _ => trivial
  have hreturned := hwatched n _ h
  rwa [Monitor.recorder_after] at hreturned

end Pool

/-- Where the world is the trace of all calls, the calls of a request are in it. -/
theorem ownCalls_subset {main : ι → Prog Op Ans α}
    {effect : List ((op : Op) × Ans op) → (op : Op) → Ans op → List ((op : Op) × Ans op) → Prop}
    (heffect : ∀ w op r w', effect w op r w' → w' = w ++ [⟨op, r⟩]) {init : List ((op : Op) × Ans op) → Prop}
    {ls : List (PoolLabel ι Op Ans)} {s : Pool (List ((op : Op) × Ans op)) Op Ans α}
    (hrun : (poolSystem main effect init).Run ls s) (n : Nat) : ownCalls n ls ⊆ s.shared := by
  refine System.Run.induction (S := poolSystem main effect init) (I := fun ls s => ownCalls n ls ⊆ s.shared) ?_ ?_ hrun
  · intro s _
    exact List.nil_subset _
  · intro ls s l t _ ih hstep
    rw [ownCalls_concat]
    cases hstep with
    | @start m input =>
      rw [PoolLabel.ownCalls]
      split
      · exact List.nil_subset _
      · exact ih
    | @call m op k r w hn hr =>
      obtain rfl := heffect _ _ _ _ hr
      rw [PoolLabel.ownCalls]
      split
      · exact List.append_subset.mpr ⟨List.subset_append_of_subset_left _ ih, List.subset_append_right _ _⟩
      · exact List.subset_append_of_subset_left _ ih
    | @lost m =>
      rw [PoolLabel.ownCalls]
      split
      · exact List.nil_subset _
      · exact ih

/-- Where the world is the trace of all calls, each entry of it is a call of some request. -/
theorem exists_call_of_mem {main : ι → Prog Op Ans α}
    {effect : List ((op : Op) × Ans op) → (op : Op) → Ans op → List ((op : Op) × Ans op) → Prop}
    (heffect : ∀ w op r w', effect w op r w' → w' = w ++ [⟨op, r⟩])
    {ls : List (PoolLabel ι Op Ans)} {s : Pool (List ((op : Op) × Ans op)) Op Ans α}
    (hrun : (poolSystem main effect fun w => w = []).Run ls s) :
    ∀ c ∈ s.shared, ∃ n, .call n c.1 c.2 ∈ ls := by
  refine System.Run.induction (S := poolSystem main effect fun w => w = [])
    (I := fun ls s => ∀ c ∈ s.shared, ∃ n, .call n c.1 c.2 ∈ ls) ?_ ?_ hrun
  · intro s hs c hc
    have hempty : s.shared = [] := hs.1
    rw [hempty] at hc
    cases hc
  · intro ls s l t _ ih hstep c hc
    have hkept (h : c ∈ s.shared) : ∃ n, .call n c.1 c.2 ∈ ls ++ [l] :=
      (ih c h).imp fun _ h => List.mem_append_left _ h
    cases hstep with
    | start => exact hkept hc
    | @call m op k r w hn hr =>
      obtain rfl := heffect _ _ _ _ hr
      rcases List.mem_append.mp hc with h | h
      · exact hkept h
      · cases List.mem_singleton.mp h
        exact ⟨m, List.mem_append_right _ (List.mem_singleton_self _)⟩
    | lost => exact hkept hc

end Recorder
