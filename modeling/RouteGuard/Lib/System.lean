import Mathlib

/-!
# Labelled transition systems and their runs

* `System σ ℓ` : initial states and labelled steps;
* `Steps s ls t` : `t` is reached from `s` by the labels `ls`, in order;
* `Run ls t` : `t` is reached from an initial state;
* `Run.induction`, `Steps.preserves` : what one step keeps, a whole run keeps;
* `restrict` : the runs all of whose steps meet a condition;
* `execute` : one run, computed by a step function.
-/

variable {σ ℓ : Type*}

/-- A labelled transition system. -/
structure System (σ ℓ : Type*) where
  init : σ → Prop
  step : σ → ℓ → σ → Prop

namespace System

variable (S : System σ ℓ)

/-- `Steps s ls t`: the labels `ls` lead from `s` to `t`. The last label is the last step. -/
inductive Steps : σ → List ℓ → σ → Prop
  | nil (s : σ) : Steps s [] s
  | snoc {s t u : σ} {ls : List ℓ} {l : ℓ} : Steps s ls t → S.step t l u → Steps s (ls ++ [l]) u

/-- `Run ls t`: a run from an initial state, with its labels. -/
def Run (ls : List ℓ) (t : σ) : Prop := ∃ s, S.init s ∧ S.Steps s ls t

/-- A state some run reaches. -/
def Reachable (t : σ) : Prop := ∃ ls, S.Run ls t

variable {S}

theorem Run.start {s : σ} (h : S.init s) : S.Run [] s := ⟨s, h, .nil s⟩

theorem Run.snoc {ls : List ℓ} {l : ℓ} {t u : σ} (h : S.Run ls t) (hl : S.step t l u) :
    S.Run (ls ++ [l]) u := by
  obtain ⟨s, hs, hsteps⟩ := h
  exact ⟨s, hs, hsteps.snoc hl⟩

/-- The induction rule for runs: the invariant may mention the labels taken so far. -/
theorem Run.induction {I : List ℓ → σ → Prop} (h0 : ∀ s, S.init s → I [] s)
    (hstep : ∀ ls t l u, S.Run ls t → I ls t → S.step t l u → I (ls ++ [l]) u) :
    ∀ {ls t}, S.Run ls t → I ls t := by
  rintro ls t ⟨s, hs, hsteps⟩
  induction hsteps with
  | nil => exact h0 _ hs
  | snoc hpre hl ih => exact hstep _ _ _ _ ⟨_, hs, hpre⟩ ih hl

theorem Steps.single {s t : σ} {l : ℓ} (h : S.step s l t) : S.Steps s [l] t :=
  .snoc (.nil s) h

theorem Steps.trans {s t u : σ} {ls ms : List ℓ} (h : S.Steps s ls t) (h' : S.Steps t ms u) :
    S.Steps s (ls ++ ms) u := by
  induction h' with
  | nil => simpa using h
  | snoc _ hl ih => simpa [List.append_assoc] using ih.snoc hl

theorem Run.append {s t : σ} {ls ms : List ℓ} (h : S.Run ls s) (h' : S.Steps s ms t) :
    S.Run (ls ++ ms) t := by
  obtain ⟨s0, h0, hsteps⟩ := h
  exact ⟨s0, h0, hsteps.trans h'⟩

/-- A property kept by every step from a reachable state is kept by every continuation of a run. -/
theorem Steps.preserves {P : σ → Prop} {s t : σ} {ls ms : List ℓ} (hrun : S.Run ls s)
    (hstep : ∀ ks t l u, S.Run ks t → P t → S.step t l u → P u) (h : S.Steps s ms t) (hP : P s) :
    P t := by
  induction h with
  | nil => exact hP
  | snoc hpre hl ih => exact hstep _ _ _ _ (hrun.append hpre) ih hl

/-- The same system with only the steps that meet `C`. -/
def restrict (S : System σ ℓ) (C : σ → ℓ → Prop) : System σ ℓ where
  init := S.init
  step s l t := S.step s l t ∧ C s l

theorem Run.of_restrict {C : σ → ℓ → Prop} {ls : List ℓ} {t : σ} (h : (S.restrict C).Run ls t) :
    S.Run ls t := by
  refine Run.induction (S := S.restrict C) (I := fun ls t => S.Run ls t) (fun s hs => Run.start hs) ?_ h
  intro ls t l u _ ih hl
  exact ih.snoc hl.1

/-- A system with more steps has the same ones. -/
theorem Steps.mono {S' : System σ ℓ} (h : ∀ s l t, S.step s l t → S'.step s l t) {ls : List ℓ} {s t : σ}
    (hsteps : S.Steps s ls t) : S'.Steps s ls t := by
  induction hsteps with
  | nil => exact .nil _
  | snoc _ hl ih => exact ih.snoc (h _ _ _ hl)

theorem Steps.of_restrict {C : σ → ℓ → Prop} {ls : List ℓ} {s t : σ} (h : (S.restrict C).Steps s ls t) : S.Steps s ls t :=
  Steps.mono (S := S.restrict C) (fun _ _ _ hl => hl.1) h

/-- A weaker condition allows the same runs. -/
theorem Run.restrict_mono {C D : σ → ℓ → Prop} (hCD : ∀ s l, C s l → D s l) {ls : List ℓ} {t : σ}
    (h : (S.restrict C).Run ls t) : (S.restrict D).Run ls t := by
  obtain ⟨s, hs, hsteps⟩ := h
  have hstep : ∀ s l s', (S.restrict C).step s l s' → (S.restrict D).step s l s' :=
    fun s l _ hl => ⟨hl.1, hCD s l hl.2⟩
  exact ⟨s, hs, Steps.mono hstep hsteps⟩

/-! ## Executing a run -/

/-- Follow the labels with a step function, as long as it allows them. -/
def execute (next : σ → ℓ → Option σ) : List ℓ → σ → Option σ
  | [], s => some s
  | l :: ls, s => (next s l).bind (execute next ls)

theorem Steps.of_execute {next : σ → ℓ → Option σ} (hnext : ∀ s l t, next s l = some t → S.step s l t)
    {ls : List ℓ} {s t : σ} (h : execute next ls s = some t) : S.Steps s ls t := by
  induction ls generalizing s with
  | nil =>
    cases h
    exact .nil _
  | cons l ls ih =>
    obtain ⟨u, hu, hrest⟩ := Option.bind_eq_some_iff.mp h
    exact (Steps.single (hnext s l u hu)).trans (ih hrest)

/-- The same for a step function that is right on the states of a run. -/
theorem Run.steps_of_execute {next : σ → ℓ → Option σ}
    (hnext : ∀ ls s l t, S.Run ls s → next s l = some t → S.step s l t) {ls ms : List ℓ} {s t : σ}
    (hrun : S.Run ls s) (h : execute next ms s = some t) : S.Steps s ms t := by
  induction ms generalizing ls s with
  | nil =>
    cases h
    exact .nil _
  | cons l ms ih =>
    obtain ⟨u, hu, hrest⟩ := Option.bind_eq_some_iff.mp h
    have hstep := hnext ls s l u hrun hu
    exact (Steps.single hstep).trans (ih (hrun.snoc hstep) hrest)

end System
