import Mathlib

/-!
# Guarded computations

A fallible operation is a chain of checks followed by an update. `require` is one check; the lemmas
below peel a chain apart, one bind at a time, so that a proof about a successful call starts from
the facts its checks left behind.
-/

namespace Guarded

variable {ε α β : Type}

/-- Go on when `c` holds, fail with `e` otherwise. -/
def require (c : Prop) [Decidable c] (e : ε) : Except ε Unit :=
  if c then .ok () else .error e

@[simp] theorem require_eq_ok {c : Prop} [Decidable c] {e : ε} {u : Unit} :
    require c e = .ok u ↔ c := by
  unfold require
  split <;> simp_all

@[simp] theorem require_eq_error {c : Prop} [Decidable c] {e e' : ε} :
    require c e = .error e' ↔ ¬ c ∧ e = e' := by
  unfold require
  split <;> simp_all

theorem bind_eq_ok {x : Except ε α} {f : α → Except ε β} {b : β} :
    (x >>= f) = .ok b ↔ ∃ a, x = .ok a ∧ f a = .ok b := by
  cases x <;> simp [bind, Except.bind]

theorem bind_eq_error {x : Except ε α} {f : α → Except ε β} {e : ε} :
    (x >>= f) = .error e ↔ x = .error e ∨ ∃ a, x = .ok a ∧ f a = .error e := by
  cases x <;> simp [bind, Except.bind]

theorem pure_eq_ok {a b : α} : (pure a : Except ε α) = .ok b ↔ a = b := by
  simp [pure, Except.pure]

theorem pure_ne_error {a : α} {e : ε} : (pure a : Except ε α) ≠ .error e := by
  simp [pure, Except.pure]

theorem map_eq_ok {x : Except ε α} {f : α → β} {b : β} :
    f <$> x = .ok b ↔ ∃ a, x = .ok a ∧ f a = b := by
  cases x <;> simp [Functor.map, Except.map]

@[simp] theorem toOption_eq_some {x : Except ε α} {a : α} : x.toOption = some a ↔ x = .ok a := by
  cases x <;> simp [Except.toOption]

@[simp] theorem mapError_eq_ok {ε' : Type} {x : Except ε' α} {f : ε' → ε} {a : α} :
    x.mapError f = .ok a ↔ x = .ok a := by
  cases x <;> simp [Except.mapError]

/-- A check and then the rest. -/
theorem check_eq_ok {x : Except ε Unit} {f : Unit → Except ε β} {b : β} :
    (x >>= f) = .ok b ↔ x = .ok () ∧ f () = .ok b := by
  rw [bind_eq_ok]
  exact ⟨fun ⟨_, h⟩ => h, fun h => ⟨(), h⟩⟩

/-! ## Checks made only under a condition, of lists and of nullable values -/

/-- A check that is made only when `c` holds. -/
def provided (c : Prop) [Decidable c] (check : Except ε Unit) : Except ε Unit := if c then check else .ok ()

@[simp] theorem provided_eq_ok {c : Prop} [Decidable c] {check : Except ε Unit} {u : Unit} :
    provided c check = .ok u ↔ (c → check = .ok ()) := by
  unfold provided
  split <;> simp_all

/-- A check of a value that may be absent. -/
def nullable (check : α → Except ε Unit) : Option α → Except ε Unit
  | none => .ok ()
  | some a => check a

/-- A check of each element, which may look at the elements before it. -/
def eachAfter (check : List α → α → Except ε Unit) : (earlier : List α) → List α → Except ε Unit
  | _, [] => .ok ()
  | earlier, a :: rest => do
    check earlier a
    eachAfter check (earlier ++ [a]) rest

/-- A check of each element. -/
def each (check : α → Except ε Unit) (l : List α) : Except ε Unit := eachAfter (fun _ => check) [] l

@[simp] theorem nullable_eq_ok {check : α → Except ε Unit} {v : Option α} {u : Unit} :
    nullable check v = .ok u ↔ ∀ a ∈ v, check a = .ok () := by
  cases v <;> simp [nullable]

theorem eachAfter_concat {check : List α → α → Except ε Unit} {l earlier : List α} {a : α} {u : Unit} :
    eachAfter check earlier (l ++ [a]) = .ok u ↔
      eachAfter check earlier l = .ok () ∧ check (earlier ++ l) a = .ok () := by
  induction l generalizing earlier with
  | nil => simp [eachAfter, check_eq_ok]
  | cons b l ih => simp [eachAfter, check_eq_ok, ih, and_assoc]

theorem eachAfter_eq_ok {check : List α → α → Except ε Unit} {l earlier : List α} {u : Unit} :
    eachAfter check earlier l = .ok u ↔
      ∀ before a after, l = before ++ a :: after → check (earlier ++ before) a = .ok () := by
  induction l using List.reverseRecOn with
  | nil => simp [eachAfter]
  | append_singleton l a ih =>
    rw [eachAfter_concat, ih]
    constructor
    · rintro ⟨hl, ha⟩ before b after heq
      rcases List.eq_nil_or_concat after with rfl | ⟨after, c, rfl⟩
      · obtain ⟨rfl, hb⟩ := List.append_inj' heq rfl
        cases hb
        exact ha
      · rw [List.concat_eq_append, ← List.cons_append, ← List.append_assoc] at heq
        exact hl before b after (List.append_inj' heq rfl).1
    · intro h
      refine ⟨fun before b after heq => h before b (after ++ [a]) (by simp [heq]), h l a [] rfl⟩

/-- Two checks that pass alike. -/
theorem eachAfter_congr {check check' : List α → α → Except ε Unit} {l earlier : List α}
    (h : ∀ before a, check before a = .ok () ↔ check' before a = .ok ()) :
    eachAfter check earlier l = .ok () ↔ eachAfter check' earlier l = .ok () := by
  simp only [eachAfter_eq_ok, h]

@[simp] theorem each_eq_ok {check : α → Except ε Unit} {l : List α} {u : Unit} :
    each check l = .ok u ↔ ∀ a ∈ l, check a = .ok () := by
  rw [each, eachAfter_eq_ok]
  constructor
  · intro h a ha
    obtain ⟨before, after, rfl⟩ := List.append_of_mem ha
    exact h before a after rfl
  · rintro h before a after rfl
    exact h a (by simp)

theorem filterAuxM_eq_ok {f : α → Except ε Bool} {l acc kept : List α} :
    l.filterAuxM f acc = .ok kept → acc.length ≤ kept.length ∧ (kept.length = acc.length → ∀ a ∈ l, f a = .ok false) := by
  induction l generalizing acc with
  | nil =>
    intro h
    cases h
    exact ⟨le_rfl, fun _ a ha => by cases ha⟩
  | cons a l ih =>
    intro h
    obtain ⟨b, hb, hrest⟩ := bind_eq_ok.mp h
    obtain ⟨hle, hall⟩ := ih hrest
    cases b with
    | false => exact ⟨hle, fun hlen => List.forall_mem_cons.mpr ⟨hb, hall hlen⟩⟩
    | true =>
      rw [cond_true, List.length_cons] at hle
      exact ⟨by omega, fun hlen => by omega⟩

/-- A filter whose test may fail keeps nothing where every test says no. -/
theorem filterM_eq_nil {f : α → Except ε Bool} {l : List α} : l.filterM f = .ok [] ↔ ∀ a ∈ l, f a = .ok false := by
  constructor
  · intro h
    obtain ⟨kept, hkept, hnil⟩ := bind_eq_ok.mp h
    have hnil : kept = [] := List.reverse_eq_nil_iff.mp (pure_eq_ok.mp hnil)
    exact (filterAuxM_eq_ok hkept).2 (by rw [hnil])
  · intro h
    refine bind_eq_ok.mpr ⟨[], ?_, rfl⟩
    induction l with
    | nil => rfl
    | cons a l ih =>
      refine bind_eq_ok.mpr ⟨false, h a List.mem_cons_self, ?_⟩
      exact ih fun b hb => h b (List.mem_cons_of_mem _ hb)

/-! ## Computations that avoid some errors -/

/-- No error of `x` is one of the `bad` ones. -/
def Avoids (bad : ε → Prop) (x : Except ε α) : Prop := ∀ e, x = .error e → ¬ bad e

variable {bad : ε → Prop}

theorem Avoids.pure (a : α) : Avoids bad (pure a : Except ε α) := fun _ h => absurd h pure_ne_error

theorem Avoids.bind {x : Except ε α} {f : α → Except ε β} (hx : Avoids bad x)
    (hf : ∀ a, x = .ok a → Avoids bad (f a)) : Avoids bad (x >>= f) := by
  intro e h
  rcases bind_eq_error.mp h with h | ⟨a, ha, h⟩
  · exact hx e h
  · exact hf a ha e h

/-- A check whose own error is not bad, before a rest that may rely on it. -/
theorem Avoids.check {c : Prop} [Decidable c] {e : ε} {f : Unit → Except ε β} (he : ¬ bad e)
    (hf : c → Avoids bad (f ())) : Avoids bad (require c e >>= f) := by
  refine Avoids.bind ?_ fun _ hc => hf (require_eq_ok.mp hc)
  intro e' h
  exact (require_eq_error.mp h).2 ▸ he

/-- A check that is known to pass. -/
theorem Avoids.pass {c : Prop} [Decidable c] {e : ε} {f : Unit → Except ε β} (hc : c)
    (hf : Avoids bad (f ())) : Avoids bad (require c e >>= f) := by
  refine Avoids.bind ?_ fun _ _ => hf
  intro e' h
  exact absurd hc (require_eq_error.mp h).1

/-- A computation that avoids every error succeeds. -/
theorem Avoids.exists_ok {x : Except ε α} (h : Avoids (fun _ => True) x) : ∃ a, x = .ok a := by
  cases x with
  | ok a => exact ⟨a, rfl⟩
  | error e => exact absurd trivial (h e rfl)

theorem Avoids.of_ok {x : Except ε α} {a : α} (h : x = .ok a) : Avoids bad x := by
  intro e he
  rw [h] at he
  cases he

/-! ### Chains of checks -/

@[simp] theorem avoids_ok {a : α} : Avoids bad (.ok a : Except ε α) := nofun

@[simp] theorem avoids_error {e : ε} : Avoids bad (.error e : Except ε α) ↔ ¬ bad e := by
  simp [Avoids]

@[simp] theorem avoids_bind {x : Except ε α} {f : α → Except ε β} :
    Avoids bad (x >>= f) ↔ Avoids bad x ∧ ∀ a, x = .ok a → Avoids bad (f a) := by
  simp only [Avoids, bind_eq_error]
  constructor
  · intro h
    exact ⟨fun e he => h e (.inl he), fun a ha e he => h e (.inr ⟨a, ha, he⟩)⟩
  · rintro ⟨hx, hf⟩ e (he | ⟨a, ha, he⟩)
    · exact hx e he
    · exact hf a ha e he

@[simp] theorem avoids_require {c : Prop} [Decidable c] {e : ε} : Avoids bad (require c e) ↔ (¬ c → ¬ bad e) := by
  simp only [Avoids, require_eq_error]
  constructor
  · intro h hc
    exact h e ⟨hc, rfl⟩
  · rintro h e' ⟨hc, rfl⟩
    exact h hc

@[simp] theorem avoids_mapError {ε' : Type} {x : Except ε' α} {f : ε' → ε} :
    Avoids bad (x.mapError f) ↔ ∀ e, x = .error e → ¬ bad (f e) := by
  cases x <;> simp [Avoids, Except.mapError]

@[simp] theorem avoids_provided {c : Prop} [Decidable c] {check : Except ε Unit} :
    Avoids bad (provided c check) ↔ (c → Avoids bad check) := by
  unfold provided
  split <;> simp_all [Avoids]

@[simp] theorem avoids_nullable {check : α → Except ε Unit} {v : Option α} :
    Avoids bad (nullable check v) ↔ ∀ a ∈ v, Avoids bad (check a) := by
  cases v <;> simp [nullable, Avoids]

@[simp] theorem avoids_eachAfter {check : List α → α → Except ε Unit} (h : ∀ before a, Avoids bad (check before a))
    (earlier l : List α) : Avoids bad (eachAfter check earlier l) := by
  induction l generalizing earlier with
  | nil => exact avoids_ok
  | cons a l ih => exact avoids_bind.mpr ⟨h earlier a, fun _ _ => ih _⟩

@[simp] theorem avoids_each {check : α → Except ε Unit} (h : ∀ a, Avoids bad (check a)) (l : List α) :
    Avoids bad (each check l) := avoids_eachAfter (fun _ => h) [] l

end Guarded
