import RouteGuard.Lib.System

/-!
# Programs that await, and pools of them

An asynchronous program runs alone between two awaits; at an await it calls an operation of the shared
world and goes on with the answer, while other programs may run in between.

* `Prog` : a program as the tree of its calls;
* `Pool` : a shared world and the programs in flight;
* `poolSystem` : every interleaving of their calls, with programs started and lost at any point;
* `Pool.play` : one interleaving, executed against a fixed environment, with `run_of_play` for the
  run it is.
-/

/-- A program that calls operations and goes on with their answers. -/
inductive Prog (Op : Type) (Ans : Op → Type) (α : Type) : Type where
  | ret (a : α)
  | call (op : Op) (k : Ans op → Prog Op Ans α)

namespace Prog

variable {Op : Type} {Ans : Op → Type} {α β : Type}

protected def bind : Prog Op Ans α → (α → Prog Op Ans β) → Prog Op Ans β
  | .ret a, f => f a
  | .call op k, f => .call op fun r => (k r).bind f

instance : Monad (Prog Op Ans) where
  pure := .ret
  bind := Prog.bind

/-- One awaited call. -/
def perform (op : Op) : Prog Op Ans (Ans op) := .call op .ret

@[simp] theorem ret_bind (a : α) (f : α → Prog Op Ans β) : (.ret a >>= f : Prog Op Ans β) = f a := rfl

@[simp] theorem call_bind (op : Op) (k : Ans op → Prog Op Ans α) (f : α → Prog Op Ans β) :
    (.call op k >>= f : Prog Op Ans β) = .call op fun r => k r >>= f := rfl

@[simp] theorem pure_eq_ret (a : α) : (pure a : Prog Op Ans α) = .ret a := rfl

end Prog

section Pool
variable {Op : Type} {Ans : Op → Type} {α σ ι : Type}

/-- A shared world and the programs in flight, by request number. -/
structure Pool (σ : Type) (Op : Type) (Ans : Op → Type) (α : Type) where
  shared : σ
  threads : Nat → Option (Prog Op Ans α)

namespace Pool

/-- Request `n` is now at `p`, or gone. -/
def put (s : Pool σ Op Ans α) (w : σ) (n : Nat) (p : Option (Prog Op Ans α)) : Pool σ Op Ans α :=
  ⟨w, Function.update s.threads n p⟩

@[simp] theorem put_shared (s : Pool σ Op Ans α) (w : σ) (n : Nat) (p : Option (Prog Op Ans α)) :
    (s.put w n p).shared = w := rfl

theorem put_threads_self (s : Pool σ Op Ans α) (w : σ) (n : Nat) (p : Option (Prog Op Ans α)) :
    (s.put w n p).threads n = p := Function.update_self ..

theorem put_threads_of_ne (s : Pool σ Op Ans α) (w : σ) {n m : Nat} (p : Option (Prog Op Ans α))
    (h : m ≠ n) : (s.put w n p).threads m = s.threads m := Function.update_of_ne h ..

end Pool

/-- What one step of a pool is. -/
inductive PoolLabel (ι : Type) (Op : Type) (Ans : Op → Type) where
  | start (n : Nat) (input : ι)
  | call (n : Nat) (op : Op) (r : Ans op)
  | lost (n : Nat)

variable (main : ι → Prog Op Ans α) (effect : σ → (op : Op) → Ans op → σ → Prop)

/-- A request starts, makes its next call, or is lost where it stands. A request that has returned
makes no further step. -/
inductive PoolStep : Pool σ Op Ans α → PoolLabel ι Op Ans → Pool σ Op Ans α → Prop
  | start {s : Pool σ Op Ans α} {n : Nat} {input : ι} (h : s.threads n = none) :
      PoolStep s (.start n input) (s.put s.shared n (some (main input)))
  | call {s : Pool σ Op Ans α} {n : Nat} {op : Op} {k : Ans op → Prog Op Ans α} {r : Ans op} {w : σ}
      (h : s.threads n = some (.call op k)) (hr : effect s.shared op r w) :
      PoolStep s (.call n op r) (s.put w n (some (k r)))
  | lost {s : Pool σ Op Ans α} {n : Nat} : PoolStep s (.lost n) (s.put s.shared n none)

/-- The runs of a pool that starts empty over an initial world. -/
def poolSystem (init : σ → Prop) : System (Pool σ Op Ans α) (PoolLabel ι Op Ans) where
  init s := init s.shared ∧ s.threads = fun _ => none
  step := PoolStep main effect

/-! ## Playing one interleaving -/

/-- A scheduler's choice: whom to start, run or lose next. -/
inductive Move (ι : Type) where
  | start (n : Nat) (input : ι)
  | call (n : Nat)
  | lost (n : Nat)

/-- Number `n` makes so many calls. -/
def Move.calls (n calls : Nat) : List (Move ι) := List.replicate calls (.call n)

/-- A request that is started and makes so many calls. -/
def Move.request (n : Nat) (input : ι) (calls : Nat) : List (Move ι) := .start n input :: Move.calls n calls

variable (answer : σ → (op : Op) → Option (Ans op × σ))

def Pool.move (s : Pool σ Op Ans α) : Move ι → Option (PoolLabel ι Op Ans × Pool σ Op Ans α)
  | .start n input =>
    match s.threads n with
    | none => some (.start n input, s.put s.shared n (some (main input)))
    | some _ => none
  | .call n =>
    match s.threads n with
    | some (.call op k) => (answer s.shared op).map fun r => (.call n op r.1, s.put r.2 n (some (k r.1)))
    | _ => none
  | .lost n => some (.lost n, s.put s.shared n none)

/-- The moves in order, as long as every step passes the check. -/
def Pool.play (check : Pool σ Op Ans α → PoolLabel ι Op Ans → Bool) :
    List (Move ι) → Pool σ Op Ans α → Option (List (PoolLabel ι Op Ans) × Pool σ Op Ans α)
  | [], s => some ([], s)
  | m :: ms, s =>
    match s.move main answer m with
    | none => none
    | some (l, t) =>
      if check s l then (Pool.play check ms t).map fun r => (l :: r.1, r.2) else none

variable {main answer effect}

theorem poolStep_of_move (hanswer : ∀ w op r, answer w op = some r → effect w op r.1 r.2)
    {s t : Pool σ Op Ans α} {m : Move ι} {l : PoolLabel ι Op Ans}
    (h : s.move main answer m = some (l, t)) : PoolStep main effect s l t := by
  cases m with
  | start n input =>
    simp only [Pool.move] at h
    split at h
    · next hn =>
      cases h
      exact .start hn
    · cases h
  | call n =>
    simp only [Pool.move] at h
    split at h
    · next op k hn =>
      obtain ⟨r, hr, he⟩ := Option.map_eq_some_iff.mp h
      cases he
      exact .call hn (hanswer _ _ _ hr)
    · cases h
  | lost n =>
    cases h
    exact .lost

theorem steps_of_play (hanswer : ∀ w op r, answer w op = some r → effect w op r.1 r.2)
    {check : Pool σ Op Ans α → PoolLabel ι Op Ans → Bool} (init : σ → Prop) {ms : List (Move ι)}
    {s t : Pool σ Op Ans α} {ls : List (PoolLabel ι Op Ans)}
    (h : s.play main answer check ms = some (ls, t)) :
    ((poolSystem main effect init).restrict fun s l => check s l = true).Steps s ls t := by
  induction ms generalizing s ls with
  | nil =>
    cases h
    exact .nil _
  | cons m ms ih =>
    simp only [Pool.play] at h
    split at h
    · cases h
    · next l u hm =>
      split at h
      · next hc =>
        obtain ⟨⟨ls', t'⟩, hr, he⟩ := Option.map_eq_some_iff.mp h
        cases he
        refine System.Steps.trans (.single ?_) (ih hr)
        exact ⟨poolStep_of_move hanswer hm, hc⟩
      · cases h

theorem run_of_play (hanswer : ∀ w op r, answer w op = some r → effect w op r.1 r.2)
    {check : Pool σ Op Ans α → PoolLabel ι Op Ans → Bool} {init : σ → Prop} {ms : List (Move ι)} {w : σ}
    {t : Pool σ Op Ans α} {ls : List (PoolLabel ι Op Ans)} (hinit : init w)
    (h : Pool.play main answer check ms ⟨w, fun _ => none⟩ = some (ls, t)) :
    ((poolSystem main effect init).restrict fun s l => check s l = true).Run ls t :=
  ⟨_, ⟨hinit, rfl⟩, steps_of_play hanswer init h⟩

/-- The requests of a played run are those the moves start. -/
theorem start_mem_of_play {check : Pool σ Op Ans α → PoolLabel ι Op Ans → Bool} {ms : List (Move ι)}
    {s t : Pool σ Op Ans α} {ls : List (PoolLabel ι Op Ans)} {n : Nat} {input : ι}
    (h : s.play main answer check ms = some (ls, t)) (hl : .start n input ∈ ls) : .start n input ∈ ms := by
  induction ms generalizing s ls with
  | nil =>
    cases h
    cases hl
  | cons m ms ih =>
    simp only [Pool.play] at h
    split at h
    · cases h
    · next l u hm =>
      split at h
      · obtain ⟨⟨ls', t'⟩, hr, he⟩ := Option.map_eq_some_iff.mp h
        cases he
        rcases List.mem_cons.mp hl with rfl | hl
        · cases m with
          | start n' input' =>
            simp only [Pool.move] at hm
            split at hm <;> cases hm
            exact List.mem_cons_self
          | call n' =>
            simp only [Pool.move] at hm
            split at hm
            · obtain ⟨_, -, he⟩ := Option.map_eq_some_iff.mp hm
              cases he
            · cases hm
          | lost n' => cases hm
        · exact List.mem_cons_of_mem _ (ih hr hl)
      · cases h

end Pool
