import RouteGuard.Lib.Coroutine

/-!
# Programs that run alone

Pre- and postconditions of a program that no other one interrupts, but that may stop before any of its calls.

* `Prog.Runs` : a run of a program, to its result or to where it stopped;
* `Prog.Ends` : every result meets a postcondition, and wherever the program stops a crash condition holds;
* `Prog.EndsM` : the same for programs that may fail, with one postcondition for results and one for errors.
-/

section Alone
variable {σ Op : Type} {Ans : Op → Type} {α β : Type} (effect : σ → (op : Op) → Ans op → σ → Prop)

/-- `p.Runs w o w'`: the program takes `w` to `w'`, with a result, or with none when it stopped. -/
inductive Prog.Runs : Prog Op Ans α → σ → Option α → σ → Prop
  | ret (a : α) (w : σ) : Prog.Runs (.ret a) w (some a) w
  | call {op : Op} {k : Ans op → Prog Op Ans α} {r : Ans op} {w w' w'' : σ} {o : Option α}
      (h : effect w op r w') (hrest : Prog.Runs (k r) w' o w'') : Prog.Runs (.call op k) w o w''
  | stopped {op : Op} {k : Ans op → Prog Op Ans α} {w : σ} : Prog.Runs (.call op k) w none w

/-- Results meet `Q`; wherever the program stops, `Z` holds. -/
def Prog.Ends (Q : α → σ → Prop) (Z : σ → Prop) : Prog Op Ans α → σ → Prop
  | .ret a, w => Q a w
  | .call op k, w => Z w ∧ ∀ r w', effect w op r w' → (k r).Ends Q Z w'

variable {effect} {Q Q' : α → σ → Prop} {Z : σ → Prop} {w w' : σ}

namespace Prog

theorem Runs.bind {p : Prog Op Ans α} {f : α → Prog Op Ans β} {a : α} {w'' : σ} {o : Option β}
    (h : p.Runs effect w (some a) w') (hf : (f a).Runs effect w' o w'') : (p >>= f).Runs effect w o w'' := by
  induction p generalizing w with
  | ret b =>
    cases h
    exact hf
  | call op k ih =>
    cases h with
    | call heffect hrest => exact .call heffect (ih _ hrest)

theorem Runs.bind_stopped {p : Prog Op Ans α} {f : α → Prog Op Ans β} (h : p.Runs effect w none w') :
    (p >>= f).Runs effect w none w' := by
  induction p generalizing w with
  | ret b => cases h
  | call op k ih =>
    cases h with
    | call heffect hrest => exact .call heffect (ih _ hrest)
    | stopped => exact .stopped

/-- A program that ends well ends well in each of its runs. -/
theorem Ends.of_runs {p : Prog Op Ans α} {o : Option α} (h : p.Ends effect Q Z w) (hrun : p.Runs effect w o w') :
    (∀ a, o = some a → Q a w') ∧ (o = none → Z w') := by
  induction hrun with
  | ret a w =>
    refine ⟨?_, fun hnone => (by cases hnone)⟩
    rintro _ ⟨⟩
    exact h
  | call heffect _ ih => exact ih (h.2 _ _ heffect)
  | stopped => exact ⟨fun _ hsome => (by cases hsome), fun _ => h.1⟩

theorem Ends.mono {p : Prog Op Ans α} (h : p.Ends effect Q Z w) (hQ : ∀ a w, Q a w → Q' a w) :
    p.Ends effect Q' Z w := by
  induction p generalizing w with
  | ret a => exact hQ a w h
  | call op k ih => exact ⟨h.1, fun r w' heffect => ih r (h.2 r w' heffect)⟩

theorem Ends.bind {p : Prog Op Ans α} {f : α → Prog Op Ans β} {R : β → σ → Prop}
    (h : p.Ends effect (fun a w => (f a).Ends effect R Z w) Z w) : (p >>= f).Ends effect R Z w := by
  induction p generalizing w with
  | ret a => exact h
  | call op k ih => exact ⟨h.1, fun r w' heffect => ih r (h.2 r w' heffect)⟩

end Prog

end Alone

/-! ## Programs that may fail -/

section Fallible
variable {σ Op : Type} {Ans : Op → Type} {ε α β : Type} (effect : σ → (op : Op) → Ans op → σ → Prop)

/-- Results meet `Q`, errors meet `E`; wherever the program stops, `Z` holds. -/
def Prog.EndsM (Q : α → σ → Prop) (E : ε → σ → Prop) (Z : σ → Prop) (x : ExceptT ε (Prog Op Ans) α) (w : σ) : Prop :=
  x.run.Ends effect (fun r w => match r with | .ok a => Q a w | .error e => E e w) Z w

variable {effect} {Q : α → σ → Prop} {E : ε → σ → Prop} {Z : σ → Prop} {w : σ}

namespace Prog.EndsM

theorem pure {a : α} (h : Q a w) : EndsM effect Q E Z (Pure.pure a : ExceptT ε (Prog Op Ans) α) w := h

/-- A computation without calls. -/
theorem ofExcept {x : Except ε α} (hok : ∀ a, x = .ok a → Q a w) (herror : ∀ e, x = .error e → E e w) :
    EndsM effect Q E Z (ExceptT.mk (Pure.pure x) : ExceptT ε (Prog Op Ans) α) w := by
  cases x with
  | ok a => exact hok a rfl
  | error e => exact herror e rfl

theorem bind {x : ExceptT ε (Prog Op Ans) α} {f : α → ExceptT ε (Prog Op Ans) β} {R : β → σ → Prop}
    (h : EndsM effect (fun a w => EndsM effect R E Z (f a) w) E Z x w) : EndsM effect R E Z (x >>= f) w := by
  refine Ends.bind (p := x.run) (f := fun r => ExceptT.bindCont f r) ?_
  refine Ends.mono h ?_
  intro r w' hr
  cases r with
  | ok a => exact hr
  | error e => exact hr

/-- A call that answers with a result or an error of its own. -/
theorem call (op : Op) {x : ExceptT ε (Prog Op Ans) α} (g : Ans op → Except ε α)
    (hx : x = ExceptT.mk (Prog.call op fun r => .ret (g r))) (hZ : Z w)
    (hQ : ∀ r w' a, effect w op r w' → g r = .ok a → Q a w')
    (hE : ∀ r w' e, effect w op r w' → g r = .error e → E e w') : EndsM effect Q E Z x w := by
  subst hx
  refine ⟨hZ, fun r w' heffect => ?_⟩
  show match g r with | .ok a => Q a w' | .error e => E e w'
  cases hg : g r with
  | ok a => exact hQ r w' a heffect hg
  | error e => exact hE r w' e heffect hg

end Prog.EndsM

namespace Prog.Runs
variable {w' w'' : σ} {x : ExceptT ε (Prog Op Ans) α} {f : α → ExceptT ε (Prog Op Ans) β}

/-- A computation that goes on with a result. -/
theorem bindM {a : α} {o : Option (Except ε β)} (h : x.run.Runs effect w (some (.ok a)) w')
    (hf : (f a).run.Runs effect w' o w'') : (x >>= f).run.Runs effect w o w'' :=
  Runs.bind (p := x.run) (f := fun r => ExceptT.bindCont f r) h hf

/-- A computation that stops in its first part. -/
theorem bindM_stopped (h : x.run.Runs effect w none w') : (x >>= f).run.Runs effect w none w' :=
  Runs.bind_stopped (p := x.run) (f := fun r => ExceptT.bindCont f r) h

end Prog.Runs

end Fallible
