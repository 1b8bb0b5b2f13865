import RouteGuard.Lib.Coroutine

/-!
# Programs that run without interruption

Between two awaits a program runs alone, and nothing but the end of the process stops it. Against a world whose calls are
answered one way, it has one outcome, and it leaves one of finitely many worlds behind when it is stopped.

* `Prog.exec` : result and world at the end;
* `Prog.visits` : the worlds on the way, from the first to the last;
* `Prog.Along`, `Prog.AlongM` : what holds of every world on the way, and of the outcome, by the program's own steps.
-/

section Segment
variable {σ Op : Type} {Ans : Op → Type} {ε α β : Type} (run : σ → (op : Op) → Ans op × σ)

def Prog.exec : Prog Op Ans α → σ → α × σ
  | .ret a, s => (a, s)
  | .call op k, s => (k (run s op).1).exec (run s op).2

def Prog.visits : Prog Op Ans α → σ → List σ
  | .ret _, s => [s]
  | .call op k, s => s :: (k (run s op).1).visits (run s op).2

/-- Every world on the way meets `P`, and the outcome meets `Q`. -/
def Prog.Along (P : σ → Prop) (Q : α → σ → Prop) : Prog Op Ans α → σ → Prop
  | .ret a, s => P s ∧ Q a s
  | .call op k, s => P s ∧ Prog.Along P Q (k (run s op).1) (run s op).2

variable {run} {P : σ → Prop} {Q Q' : α → σ → Prop} {s : σ}

namespace Prog

theorem Along.mono {p : Prog Op Ans α} (h : p.Along run P Q s) (hQ : ∀ a s, P s → Q a s → Q' a s) :
    p.Along run P Q' s := by
  induction p generalizing s with
  | ret a => exact ⟨h.1, hQ a s h.1 h.2⟩
  | call op k ih => exact ⟨h.1, ih _ h.2⟩

theorem Along.weaken {P' : σ → Prop} {p : Prog Op Ans α} (h : p.Along run P Q s) (hP : ∀ s, P s → P' s) :
    p.Along run P' Q s := by
  induction p generalizing s with
  | ret a => exact ⟨hP s h.1, h.2⟩
  | call op k ih => exact ⟨hP s h.1, ih _ h.2⟩

theorem Along.bind {p : Prog Op Ans α} {f : α → Prog Op Ans β} {R : β → σ → Prop}
    (h : p.Along run P (fun a s => (f a).Along run P R s) s) : (p >>= f).Along run P R s := by
  induction p generalizing s with
  | ret a => exact h.2
  | call op k ih => exact ⟨h.1, ih _ h.2⟩

theorem Along.visits {p : Prog Op Ans α} (h : p.Along run P Q s) : ∀ t ∈ p.visits run s, P t := by
  induction p generalizing s with
  | ret a =>
    intro t ht
    obtain rfl := List.mem_singleton.mp ht
    exact h.1
  | call op k ih =>
    intro t ht
    rcases List.mem_cons.mp ht with rfl | ht
    · exact h.1
    · exact ih _ h.2 t ht

theorem exec_mem_visits (p : Prog Op Ans α) (s : σ) : (p.exec run s).2 ∈ p.visits run s := by
  induction p generalizing s with
  | ret a => exact List.mem_singleton.mpr rfl
  | call op k ih => exact List.mem_cons_of_mem _ (ih _ _)

end Prog

/-- The same for a program that may fail. -/
def Prog.AlongM (run : σ → (op : Op) → Ans op × σ) (P : σ → Prop) (Q : α → σ → Prop) (x : ExceptT ε (Prog Op Ans) α)
    (s : σ) : Prop :=
  x.run.Along run P (fun r s => match r with | .ok a => Q a s | .error _ => True) s

namespace Prog.AlongM

theorem pure {a : α} (hP : P s) (hQ : Q a s) : AlongM run P Q (Pure.pure a : ExceptT ε (Prog Op Ans) α) s := ⟨hP, hQ⟩

theorem throw {e : ε} (hP : P s) : AlongM run P Q (MonadExcept.throw e : ExceptT ε (Prog Op Ans) α) s := ⟨hP, trivial⟩

/-- A computation without calls. -/
theorem ofExcept {x : Except ε α} (hP : P s) (hQ : ∀ a, x = .ok a → Q a s) :
    AlongM run P Q (ExceptT.mk (Pure.pure x) : ExceptT ε (Prog Op Ans) α) s := by
  cases x with
  | ok a => exact ⟨hP, hQ a rfl⟩
  | error e => exact ⟨hP, trivial⟩

theorem bind {x : ExceptT ε (Prog Op Ans) α} {f : α → ExceptT ε (Prog Op Ans) β} {R : β → σ → Prop}
    (h : AlongM run P (fun a s => AlongM run P R (f a) s) x s) : AlongM run P R (x >>= f) s := by
  refine Along.bind (p := x.run) (f := fun r => ExceptT.bindCont f r) (Along.mono h ?_)
  intro r t hP hr
  cases r with
  | ok a => exact hr
  | error e => exact ⟨hP, trivial⟩

theorem mono {x : ExceptT ε (Prog Op Ans) α} (h : AlongM run P Q x s) (hQ : ∀ a s, P s → Q a s → Q' a s) :
    AlongM run P Q' x s := by
  refine Along.mono h ?_
  intro r t hP hr
  cases r with
  | ok a => exact hQ a t hP hr
  | error e => trivial

theorem weaken {P' : σ → Prop} {x : ExceptT ε (Prog Op Ans) α} (h : AlongM run P Q x s) (hP : ∀ s, P s → P' s) :
    AlongM run P' Q x s :=
  Along.weaken h hP

/-- One call, whose answer may be an error. -/
theorem call (op : Op) {x : ExceptT ε (Prog Op Ans) α} (g : Ans op → Except ε α)
    (hx : x = ExceptT.mk (Prog.call op fun r => .ret (g r))) (hP : P s) (hP' : P (run s op).2)
    (hQ : ∀ a, g (run s op).1 = .ok a → Q a (run s op).2) : AlongM run P Q x s := by
  subst hx
  refine ⟨hP, hP', ?_⟩
  show match g (run s op).1 with | .ok a => Q a (run s op).2 | .error e => True
  cases hg : g (run s op).1 with
  | ok a => exact hQ a hg
  | error e => trivial

/-- The worlds on the way. -/
theorem visits {x : ExceptT ε (Prog Op Ans) α} (h : AlongM run P Q x s) : ∀ t ∈ x.run.visits run s, P t := Along.visits h

end Prog.AlongM

end Segment
