import RouteGuard.Lib.Coroutine

/-!
# Rely and guarantee for pools of programs

A program of a pool may rely on what no other program takes from it: facts about the shared world that stay true
while the world grows, and tokens, of which each is drawn once and spent at most once by the program that drew it. In
return it makes only calls that are allowed, and spends only tokens it holds. What it returns may depend on the calls
it made itself.

* `Contract` : what the calls of a pool do, what every state of the world satisfies, how the world grows, which calls
  are allowed, which calls draw and which spend a token;
* `Prog.Safe` : every call of a program is allowed, whatever happened before it, and its result meets a postcondition;
* `Contract.holds_of_run` : in every run of a pool of safe programs the invariant holds and no token is spent twice;
* `Prog.SafeM` : the same for programs that may fail, with one postcondition for results and one for errors.
-/

section Contract
variable {σ τ : Type} [DecidableEq τ] {Op : Type} {Ans : Op → Type} {α β ι : Type}

/-- What the programs of a pool agree on. -/
structure Contract (σ τ : Type) (Op : Type) (Ans : Op → Type) where
  effect : σ → (op : Op) → Ans op → σ → Prop
  inv : σ → Prop
  grows : σ → σ → Prop
  allowed : σ → Op → Prop
  refl : ∀ w, grows w w
  trans : ∀ {u v w}, grows u v → grows v w → grows u w
  /-- An allowed call keeps the invariant, and the world only grows. -/
  keeps : ∀ {w w' op r}, inv w → allowed w op → effect w op r w' → inv w' ∧ grows w w'
  /-- The token an answer hands out. -/
  gain : (op : Op) → Ans op → Option τ
  /-- The token a call spends. -/
  use : Op → Option τ
  issued : σ → List τ
  used : σ → List τ
  fresh : ∀ {w w' op r t}, effect w op r w' → gain op r = some t → t ∉ issued w
  issued_effect : ∀ {w w' op r}, effect w op r w' → issued w' = issued w ++ (gain op r).toList
  used_effect : ∀ {w w' op r}, effect w op r w' → used w' = used w ++ (use op).toList

/-- What one program sees: the world, the tokens it holds, and the calls it has made. -/
structure Local (σ τ : Type) (Op : Type) (Ans : Op → Type) where
  world : σ
  held : List τ
  own : List ((op : Op) × Ans op)

/-- The tokens left after a call. -/
def spend (t : Option τ) (held : List τ) : List τ :=
  match t with
  | none => held
  | some t => held.erase t

theorem spend_subset (t : Option τ) (held : List τ) : spend t held ⊆ held := by
  cases t with
  | none => exact List.Subset.refl _
  | some t => exact List.erase_subset

theorem nodup_spend (t : Option τ) {held : List τ} (h : held.Nodup) : (spend t held).Nodup := by
  cases t with
  | none => exact h
  | some t => exact h.erase t

theorem not_mem_spend {t : τ} {held : List τ} (h : held.Nodup) : t ∉ spend (some t) held := h.not_mem_erase

variable (C : Contract σ τ Op Ans)

/-- Whatever has happened before a call, the call is allowed and its token is held; after any answer the rest is safe
again. -/
def Prog.Safe (Q : Local σ τ Op Ans → α → Prop) : Prog Op Ans α → Local σ τ Op Ans → Prop
  | .ret a, ℓ => Q ℓ a
  | .call op k, ℓ =>
    ∀ w, C.grows ℓ.world w → C.inv w → C.allowed w op ∧ (C.use op).toList ⊆ ℓ.held ∧
      ∀ r w', C.effect w op r w' →
        (k r).Safe Q ⟨w', (C.gain op r).toList ++ spend (C.use op) ℓ.held, ℓ.own ++ [⟨op, r⟩]⟩

variable {C} {Q Q' : Local σ τ Op Ans → α → Prop} {ℓ : Local σ τ Op Ans}

namespace Prog

@[simp] theorem safe_ret {a : α} : (Prog.ret a : Prog Op Ans α).Safe C Q ℓ ↔ Q ℓ a := Iff.rfl

/-- A weaker postcondition, which may use that the world has grown since. -/
theorem Safe.mono {p : Prog Op Ans α} (h : p.Safe C Q ℓ) (hinv : C.inv ℓ.world)
    (hQ : ∀ ℓ' a, C.grows ℓ.world ℓ'.world → C.inv ℓ'.world → Q ℓ' a → Q' ℓ' a) : p.Safe C Q' ℓ := by
  induction p generalizing ℓ with
  | ret a => exact hQ ℓ a (C.refl _) hinv h
  | call op k ih =>
    intro w hgrows hw
    obtain ⟨hallowed, huse, hrest⟩ := h w hgrows hw
    refine ⟨hallowed, huse, ?_⟩
    intro r w' heffect
    obtain ⟨hinv', hgrows'⟩ := C.keeps hw hallowed heffect
    refine ih r (hrest r w' heffect) hinv' ?_
    intro ℓ' a hg
    exact hQ ℓ' a (C.trans (C.trans hgrows hgrows') hg)

/-- What is safe stays safe while the world grows, if its postcondition does. -/
theorem Safe.later {p : Prog Op Ans α} {w : σ} (h : p.Safe C Q ℓ) (hgrows : C.grows ℓ.world w)
    (hQ : ∀ a, Q ℓ a → Q ⟨w, ℓ.held, ℓ.own⟩ a) : p.Safe C Q ⟨w, ℓ.held, ℓ.own⟩ := by
  cases p with
  | ret a => exact hQ a h
  | call op k =>
    intro w₁ hgrows₁
    exact h w₁ (C.trans hgrows hgrows₁)

theorem Safe.bind {p : Prog Op Ans α} {f : α → Prog Op Ans β} {R : Local σ τ Op Ans → β → Prop}
    (h : p.Safe C (fun ℓ a => (f a).Safe C R ℓ) ℓ) : (p >>= f).Safe C R ℓ := by
  induction p generalizing ℓ with
  | ret a => exact h
  | call op k ih =>
    intro w hgrows hw
    obtain ⟨hallowed, huse, hrest⟩ := h w hgrows hw
    refine ⟨hallowed, huse, ?_⟩
    intro r w' heffect
    exact ih r (hrest r w' heffect)

/-- One call that spends no token: it is allowed, and every answer meets the postcondition. -/
theorem Safe.perform {op : Op} {Q : Local σ τ Op Ans → Ans op → Prop} (huse : C.use op = none)
    (hallowed : ∀ w, C.grows ℓ.world w → C.inv w → C.allowed w op)
    (hQ : ∀ w r w', C.grows ℓ.world w → C.inv w → C.effect w op r w' → C.grows ℓ.world w' → C.inv w' →
      Q ⟨w', (C.gain op r).toList ++ ℓ.held, ℓ.own ++ [⟨op, r⟩]⟩ r) :
    (Prog.perform op : Prog Op Ans (Ans op)).Safe C Q ℓ := by
  intro w hgrows hw
  have hok := hallowed w hgrows hw
  refine ⟨hok, by simp [huse], ?_⟩
  intro r w' heffect
  obtain ⟨hinv', hgrows'⟩ := C.keeps hw hok heffect
  have := hQ w r w' hgrows hw heffect (C.trans hgrows hgrows') hinv'
  rw [huse]
  exact this

/-- One call that spends a token. -/
theorem Safe.performSpending {o : Op} {t : τ} {Q : Local σ τ Op Ans → Ans o → Prop} (huse : C.use o = some t)
    (hheld : t ∈ ℓ.held) (hallowed : ∀ w, C.grows ℓ.world w → C.inv w → C.allowed w o)
    (hQ : ∀ w r w' held, C.grows ℓ.world w → C.inv w → C.effect w o r w' → C.grows ℓ.world w' → C.inv w' →
      Q ⟨w', held, ℓ.own ++ [⟨o, r⟩]⟩ r) :
    (Prog.perform o : Prog Op Ans (Ans o)).Safe C Q ℓ := by
  intro w hgrows hw
  have hok := hallowed w hgrows hw
  refine ⟨hok, by simpa [huse] using hheld, ?_⟩
  intro r w' heffect
  obtain ⟨hinv', hgrows'⟩ := C.keeps hw hok heffect
  exact hQ w r w' _ hgrows hw heffect (C.trans hgrows hgrows') hinv'

end Prog

/-! ## Pools of safe programs -/

/-- Who holds which tokens: a token is held by at most one program, was handed out, and is not spent. -/
structure Contract.Custody (C : Contract σ τ Op Ans) (w : σ) (held : Nat → List τ) : Prop where
  nodup : ∀ n, (held n).Nodup
  disjoint : ∀ n m t, t ∈ held n → t ∈ held m → n = m
  issued : ∀ n, held n ⊆ C.issued w
  unspent : ∀ n t, t ∈ held n → t ∉ C.used w
  used_issued : C.used w ⊆ C.issued w
  used_nodup : (C.used w).Nodup

/-- What a step adds to the calls request `n` has made since it started. -/
def PoolLabel.ownCalls (n : Nat) (l : PoolLabel ι Op Ans) (own : List ((op : Op) × Ans op)) :
    List ((op : Op) × Ans op) :=
  match l with
  | .start m _ => if m = n then [] else own
  | .call m op r => if m = n then own ++ [⟨op, r⟩] else own
  | .lost m => if m = n then [] else own

/-- The calls request `n` has made since it started. -/
def ownCalls (n : Nat) (ls : List (PoolLabel ι Op Ans)) : List ((op : Op) × Ans op) :=
  ls.foldl (fun own l => l.ownCalls n own) []

/-- The invariant holds, and every program in flight is safe where it stands. -/
structure Contract.Holds (C : Contract σ τ Op Ans) (Q : Local σ τ Op Ans → α → Prop) (ls : List (PoolLabel ι Op Ans))
    (s : Pool σ Op Ans α) (held : Nat → List τ) : Prop where
  inv : C.inv s.shared
  safe : ∀ n p, s.threads n = some p → p.Safe C Q ⟨s.shared, held n, ownCalls n ls⟩
  custody : C.Custody s.shared held

omit [DecidableEq τ] in
/-- Program `n` drops its tokens. -/
theorem Contract.Custody.drop {w : σ} {held : Nat → List τ} (h : C.Custody w held) (n : Nat) :
    C.Custody w (Function.update held n []) := by
  have hsub (m : Nat) : Function.update held n [] m ⊆ held m := by
    by_cases hm : m = n
    · subst hm
      rw [Function.update_self]
      exact List.nil_subset _
    · rw [Function.update_of_ne hm]
      exact List.Subset.refl _
  refine ⟨?_, ?_, ?_, ?_, h.used_issued, h.used_nodup⟩
  · intro m
    by_cases hm : m = n
    · subst hm
      rw [Function.update_self]
      exact List.nodup_nil
    · rw [Function.update_of_ne hm]
      exact h.nodup m
  · intro m k t hm hk
    exact h.disjoint m k t (hsub m hm) (hsub k hk)
  · intro m
    exact List.Subset.trans (hsub m) (h.issued m)
  · intro m t ht
    exact h.unspent m t (hsub m ht)

/-- Program `n` makes a call whose token it holds. -/
theorem Contract.Custody.call {w w' : σ} {held : Nat → List τ} (h : C.Custody w held) {n : Nat} {op : Op} {r : Ans op}
    (huse : (C.use op).toList ⊆ held n) (heffect : C.effect w op r w') :
    C.Custody w' (Function.update held n ((C.gain op r).toList ++ spend (C.use op) (held n))) := by
  have hissued := C.issued_effect heffect
  have hused := C.used_effect heffect
  have hfresh (t : τ) (ht : t ∈ (C.gain op r).toList) : t ∉ C.issued w :=
    C.fresh heffect (Option.mem_toList.mp ht)
  have hkept (m : Nat) (t : τ)
      (ht : t ∈ Function.update held n ((C.gain op r).toList ++ spend (C.use op) (held n)) m) :
      (m = n ∧ t ∈ (C.gain op r).toList) ∨ t ∈ held m := by
    by_cases hm : m = n
    · subst hm
      rw [Function.update_self, List.mem_append] at ht
      rcases ht with ht | ht
      · exact .inl ⟨rfl, ht⟩
      · exact .inr (spend_subset _ _ ht)
    · rw [Function.update_of_ne hm] at ht
      exact .inr ht
  have hold (t : τ) (ht : t ∈ (C.use op).toList) : t ∉ C.used w ∧ t ∈ C.issued w :=
    ⟨h.unspent n t (huse ht), h.issued n (huse ht)⟩
  refine ⟨?_, ?_, ?_, ?_, ?_, ?_⟩
  · intro m
    by_cases hm : m = n
    · subst hm
      rw [Function.update_self]
      refine List.Nodup.append ?_ (nodup_spend _ (h.nodup m)) ?_
      · cases C.gain op r <;> simp
      · intro t ht hs
        exact hfresh t ht (h.issued m (spend_subset _ _ hs))
    · rw [Function.update_of_ne hm]
      exact h.nodup m
  · intro m k t hm hk
    rcases hkept m t hm with ⟨rfl, hg⟩ | hm' <;> rcases hkept k t hk with ⟨rfl, hg'⟩ | hk'
    · rfl
    · exact absurd (h.issued k hk') (hfresh t hg)
    · exact absurd (h.issued m hm') (hfresh t hg')
    · exact h.disjoint m k t hm' hk'
  · intro m t ht
    rw [hissued, List.mem_append]
    rcases hkept m t ht with ⟨-, hg⟩ | hm
    · exact .inr hg
    · exact .inl (h.issued m hm)
  · intro m t ht hmem
    rw [hused, List.mem_append] at hmem
    rcases hkept m t ht with ⟨-, hg⟩ | hm
    · rcases hmem with hmem | hmem
      · exact hfresh t hg (h.used_issued hmem)
      · exact hfresh t hg (hold t hmem).2
    · rcases hmem with hmem | hmem
      · exact h.unspent m t hm hmem
      · -- the token that was spent is held by nobody any more
        have hn : m = n := h.disjoint m n t hm (huse hmem)
        subst hn
        rw [Function.update_self, List.mem_append] at ht
        rcases ht with ht | ht
        · exact hfresh t ht (hold t hmem).2
        · rw [Option.mem_toList.mp hmem] at ht
          exact not_mem_spend (h.nodup m) ht
  · rw [hused, hissued]
    intro t ht
    rcases List.mem_append.mp ht with ht | ht
    · exact List.mem_append_left _ (h.used_issued ht)
    · exact List.mem_append_left _ (hold t ht).2
  · rw [hused]
    refine List.Nodup.append h.used_nodup ?_ ?_
    · cases C.use op <;> simp
    · intro t ht hu
      exact (hold t hu).1 ht

variable {main : ι → Prog Op Ans α}

/-- Program `n` moves on, and the world grows. The calls of the other programs stay as they are. -/
theorem Contract.Holds.put (hstable : ∀ ℓ a w, C.grows ℓ.world w → Q ℓ a → Q ⟨w, ℓ.held, ℓ.own⟩ a)
    {ls : List (PoolLabel ι Op Ans)} {l : PoolLabel ι Op Ans} {s : Pool σ Op Ans α} {held : Nat → List τ}
    (h : C.Holds Q ls s held) {w : σ} {n : Nat} {p : Option (Prog Op Ans α)} {T : List τ} (hinv : C.inv w)
    (hgrows : C.grows s.shared w) (hother : ∀ m own, m ≠ n → l.ownCalls m own = own)
    (hcustody : C.Custody w (Function.update held n T))
    (hp : ∀ q, p = some q → q.Safe C Q ⟨w, T, ownCalls n (ls ++ [l])⟩) :
    C.Holds Q (ls ++ [l]) (s.put w n p) (Function.update held n T) := by
  refine ⟨hinv, ?_, hcustody⟩
  intro m q hq
  by_cases hm : m = n
  · subst hm
    rw [Pool.put_threads_self] at hq
    rw [Function.update_self]
    exact hp q hq
  · rw [Pool.put_threads_of_ne _ _ _ hm] at hq
    rw [Function.update_of_ne hm]
    have hown : ownCalls m (ls ++ [l]) = ownCalls m ls := by
      rw [ownCalls, List.foldl_append]
      exact hother m _ hm
    rw [hown]
    exact (h.safe m q hq).later hgrows fun a => hstable _ a w hgrows

theorem Contract.Holds.step (hstable : ∀ ℓ a w, C.grows ℓ.world w → Q ℓ a → Q ⟨w, ℓ.held, ℓ.own⟩ a)
    (hmain : ∀ input w, C.inv w → (main input).Safe C Q ⟨w, [], []⟩) {ls : List (PoolLabel ι Op Ans)}
    {s t : Pool σ Op Ans α} {held : Nat → List τ} {l : PoolLabel ι Op Ans} (h : C.Holds Q ls s held)
    (hstep : PoolStep main C.effect s l t) : ∃ held', C.Holds Q (ls ++ [l]) t held' := by
  cases hstep with
  | @start n input hn =>
    refine ⟨_, h.put hstable h.inv (C.refl _) ?_ (h.custody.drop n) ?_⟩
    · intro m own hm
      exact if_neg hm.symm
    · intro q hq
      cases hq
      rw [ownCalls, List.foldl_append]
      simpa [PoolLabel.ownCalls] using hmain input _ h.inv
  | @call n op k r w hn heffect =>
    obtain ⟨hallowed, huse, hrest⟩ := h.safe _ _ hn _ (C.refl _) h.inv
    obtain ⟨hinv, hgrows⟩ := C.keeps h.inv hallowed heffect
    refine ⟨_, h.put hstable hinv hgrows ?_ (h.custody.call huse heffect) ?_⟩
    · intro m own hm
      exact if_neg hm.symm
    · intro q hq
      cases hq
      rw [ownCalls, List.foldl_append]
      simpa [PoolLabel.ownCalls, ownCalls] using hrest _ _ heffect
  | @lost n =>
    refine ⟨_, h.put hstable h.inv (C.refl _) ?_ (h.custody.drop n) ?_⟩
    · intro m own hm
      exact if_neg hm.symm
    · intro q hq
      cases hq

/-- **Soundness.** If every program is safe wherever the invariant holds, then in every run, whatever the
interleaving and whichever programs are lost, the invariant holds, all programs in flight are safe, and no token is
spent twice. -/
theorem Contract.holds_of_run (hstable : ∀ ℓ a w, C.grows ℓ.world w → Q ℓ a → Q ⟨w, ℓ.held, ℓ.own⟩ a) {init : σ → Prop}
    (hinit : ∀ w, init w → C.inv w ∧ C.used w = [])
    (hmain : ∀ input w, C.inv w → (main input).Safe C Q ⟨w, [], []⟩) {ls : List (PoolLabel ι Op Ans)}
    {s : Pool σ Op Ans α} (hrun : (poolSystem main C.effect init).Run ls s) : ∃ held, C.Holds Q ls s held := by
  refine System.Run.induction (I := fun ls s => ∃ held, C.Holds Q ls s held) ?_ ?_ hrun
  · intro s hs
    obtain ⟨hinv, hused⟩ := hinit _ hs.1
    refine ⟨fun _ => [], hinv, ?_, ⟨fun _ => List.nodup_nil, ?_, fun _ => List.nil_subset _, ?_, ?_, ?_⟩⟩
    · intro n p hp
      rw [hs.2] at hp
      cases hp
    · intro n m t ht
      cases ht
    · intro n t ht
      cases ht
    · rw [hused]
      exact List.nil_subset _
    · rw [hused]
      exact List.nodup_nil
  · rintro ls s l t _ ⟨held, ih⟩ hstep
    exact ih.step hstable hmain hstep

end Contract

/-! ## Programs that may fail -/

section Fallible
variable {σ τ : Type} [DecidableEq τ] {Op : Type} {Ans : Op → Type} {ε α β : Type} (C : Contract σ τ Op Ans)

/-- Results meet `Q`, errors meet `E`. -/
def Prog.SafeM (Q : Local σ τ Op Ans → α → Prop) (E : Local σ τ Op Ans → ε → Prop) (m : ExceptT ε (Prog Op Ans) α)
    (ℓ : Local σ τ Op Ans) : Prop :=
  m.run.Safe C (fun ℓ r => match r with | .ok a => Q ℓ a | .error e => E ℓ e) ℓ

variable {C} {Q Q' : Local σ τ Op Ans → α → Prop} {E E' : Local σ τ Op Ans → ε → Prop} {ℓ : Local σ τ Op Ans}

namespace Prog.SafeM

/-- A computation without calls. -/
theorem ofExcept {x : Except ε α} (hok : ∀ a, x = .ok a → Q ℓ a) (herror : ∀ e, x = .error e → E ℓ e) :
    SafeM C Q E (ExceptT.mk (Pure.pure x) : ExceptT ε (Prog Op Ans) α) ℓ := by
  cases x with
  | ok a => exact hok a rfl
  | error e => exact herror e rfl

theorem bind {m : ExceptT ε (Prog Op Ans) α} {f : α → ExceptT ε (Prog Op Ans) β} {R : Local σ τ Op Ans → β → Prop}
    (h : SafeM C (fun ℓ a => SafeM C R E (f a) ℓ) E m ℓ) : SafeM C R E (m >>= f) ℓ := by
  refine Safe.bind (p := m.run) (f := fun r => ExceptT.bindCont f r) ?_
  unfold SafeM at h
  convert h using 2
  funext r
  cases r <;> rfl

theorem map {m : ExceptT ε (Prog Op Ans) α} {f : α → β} {R : Local σ τ Op Ans → β → Prop}
    (h : SafeM C (fun ℓ a => R ℓ (f a)) E m ℓ) : SafeM C R E (f <$> m) ℓ := by
  refine Safe.bind (p := m.run) ?_
  unfold SafeM at h
  convert h using 2
  funext r
  cases r <;> rfl

theorem mono {m : ExceptT ε (Prog Op Ans) α} (h : SafeM C Q E m ℓ) (hinv : C.inv ℓ.world)
    (hQ : ∀ ℓ' a, C.grows ℓ.world ℓ'.world → C.inv ℓ'.world → Q ℓ' a → Q' ℓ' a)
    (hE : ∀ ℓ' e, C.grows ℓ.world ℓ'.world → C.inv ℓ'.world → E ℓ' e → E' ℓ' e) : SafeM C Q' E' m ℓ := by
  refine Safe.mono h hinv ?_
  intro ℓ' r hg hi hr
  cases r with
  | ok a => exact hQ ℓ' a hg hi hr
  | error e => exact hE ℓ' e hg hi hr

/-- A call without its own error. -/
theorem lift {p : Prog Op Ans α} (h : p.Safe C Q ℓ) :
    SafeM C Q E (ExceptT.lift p : ExceptT ε (Prog Op Ans) α) ℓ :=
  Safe.bind h

/-- The outcome of a program as a value. -/
theorem outcome {m : ExceptT ε (Prog Op Ans) α} {Q : Local σ τ Op Ans → Except ε α → Prop}
    (h : SafeM C (fun ℓ a => Q ℓ (.ok a)) (fun ℓ e => Q ℓ (.error e)) m ℓ) : SafeM C Q E (ExceptT.lift m.run) ℓ := by
  refine lift ?_
  unfold SafeM at h
  convert h using 2
  funext r
  cases r <;> rfl

end Prog.SafeM

end Fallible
