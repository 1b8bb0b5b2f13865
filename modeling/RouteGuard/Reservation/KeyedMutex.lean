import RouteGuard.Lib.JsString
import RouteGuard.Lib.System

/-!
# The keyed mutex

`KeyedMutex.runExclusive` chains each call behind the tail of its key before it awaits that tail, and the call that ends
drops the entry of the map when the entry is still its own. A promise is named by the call that made it: the tail of the
`i`-th call is resolved when its `previous` is and its gate is released.

* `KeyedMutex.next` : one step of one call; the scheduler chooses among all of them;
* `Queued` : the invariant;
* `earlier_ended` : what a resolved `previous` says;
* `runExclusive_serializes` : exclusion, order, and what a call waits for.
-/

namespace RouteGuard.Reservation
open JsString

/-- Where a call of `runExclusive` is: before its `fn`, inside it, or after the `finally` block. -/
inductive MutexPhase
  | waiting
  | running
  | returned
  | threw
  deriving DecidableEq, Repr

/-- The gate of the call is released. -/
def MutexPhase.ended : MutexPhase → Bool
  | waiting | running => false
  | returned | threw => true

theorem MutexPhase.started_of_ended {phase : MutexPhase} (h : phase.ended) : phase ≠ .waiting := by
  rintro rfl
  cases h

/-- A call, with the tail it found: none for `Promise.resolve()`. -/
structure MutexCall where
  key : JsString
  previous : Option Nat
  phase : MutexPhase
  /-- The promise `previous.then(() => gate)` is resolved. -/
  settled : Bool
  deriving DecidableEq, Repr

/-- The map of tails, and all calls so far in the order they were made. -/
structure KeyedMutex where
  tails : JsString → Option Nat
  calls : List MutexCall

inductive MutexLabel
  /-- `runExclusive` is called with the key and runs up to its `await`. -/
  | call (key : JsString)
  /-- The tail of a call resolves. -/
  | settle (i : Nat)
  /-- The `await` of a call returns and its `fn` starts. -/
  | start (i : Nat)
  /-- The `fn` of a call returns or throws; the `finally` block runs. -/
  | finish (i : Nat) (throws : Bool)
  deriving DecidableEq, Repr

namespace KeyedMutex

def empty : KeyedMutex := ⟨fun _ => none, []⟩

/-- A promise that some call awaits is resolved. -/
def resolved (m : KeyedMutex) : Option Nat → Bool
  | none => true
  | some j => (m.calls[j]?).any MutexCall.settled

/-- A call is replaced by what has become of it. -/
def put (m : KeyedMutex) (i : Nat) (c : MutexCall) : KeyedMutex := { m with calls := m.calls.set i c }

/-- A call takes the tail of its key and becomes the tail. -/
def arrive (m : KeyedMutex) (key : JsString) : KeyedMutex :=
  { tails := Function.update m.tails key (some m.calls.length)
    calls := m.calls ++ [{ key, previous := m.tails key, phase := .waiting, settled := false }] }

/-- The entry of the map is dropped when it is the call's own tail. -/
def cleanup (m : KeyedMutex) (key : JsString) (i : Nat) : KeyedMutex :=
  if m.tails key = some i then { m with tails := Function.update m.tails key none } else m

def next (m : KeyedMutex) : MutexLabel → Option KeyedMutex
  | .call key => some (m.arrive key)
  | .settle i => do
    let c ← m.calls[i]?
    guard (c.phase.ended ∧ m.resolved c.previous)
    some (m.put i { c with settled := true })
  | .start i => do
    let c ← m.calls[i]?
    guard (c.phase = .waiting ∧ m.resolved c.previous)
    some (m.put i { c with phase := .running })
  | .finish i throws => do
    let c ← m.calls[i]?
    guard (c.phase = .running)
    some ((m.put i { c with phase := if throws then .threw else .returned }).cleanup c.key i)

/-- Calls arrive and go on in any order. -/
def system : System KeyedMutex MutexLabel where
  init m := m = empty
  step m l m' := m.next l = some m'

/-- What one step can do. -/
theorem next_cases {m m' : KeyedMutex} {l : MutexLabel} (h : m.next l = some m') :
    (∃ key, l = .call key ∧ m' = m.arrive key) ∨
    (∃ i c, l = .settle i ∧ m.calls[i]? = some c ∧ c.phase.ended ∧ m.resolved c.previous ∧
      m' = m.put i { c with settled := true }) ∨
    (∃ i c, l = .start i ∧ m.calls[i]? = some c ∧ c.phase = .waiting ∧ m.resolved c.previous ∧
      m' = m.put i { c with phase := .running }) ∨
    (∃ i c throws, l = .finish i throws ∧ m.calls[i]? = some c ∧ c.phase = .running ∧
      m' = (m.put i { c with phase := if throws then .threw else .returned }).cleanup c.key i) := by
  cases l with
  | call key => exact Or.inl ⟨key, rfl, (Option.some.inj h).symm⟩
  | settle i =>
    obtain ⟨c, hc, h⟩ := Option.bind_eq_some_iff.mp h
    simp only [Option.bind_eq_bind, Option.bind_eq_some_iff, Option.guard_eq_some', exists_const] at h
    obtain ⟨⟨hended, hprevious⟩, h⟩ := h
    exact Or.inr (Or.inl ⟨i, c, rfl, hc, hended, hprevious, (Option.some.inj h).symm⟩)
  | start i =>
    obtain ⟨c, hc, h⟩ := Option.bind_eq_some_iff.mp h
    simp only [Option.bind_eq_bind, Option.bind_eq_some_iff, Option.guard_eq_some', exists_const] at h
    obtain ⟨⟨hwaiting, hprevious⟩, h⟩ := h
    exact Or.inr (Or.inr (Or.inl ⟨i, c, rfl, hc, hwaiting, hprevious, (Option.some.inj h).symm⟩))
  | finish i throws =>
    obtain ⟨c, hc, h⟩ := Option.bind_eq_some_iff.mp h
    simp only [Option.bind_eq_bind, Option.bind_eq_some_iff, Option.guard_eq_some', exists_const] at h
    obtain ⟨hrunning, h⟩ := h
    exact Or.inr (Or.inr (Or.inr ⟨i, c, throws, rfl, hc, hrunning, (Option.some.inj h).symm⟩))

/-! ## Calls only go on -/

/-- What may become of a call. -/
structure Follows (c c' : MutexCall) : Prop where
  key : c'.key = c.key
  previous : c'.previous = c.previous
  started : c.phase ≠ .waiting → c'.phase ≠ .waiting
  ended : c.phase.ended → c'.phase.ended
  settled : c.settled → c'.settled

theorem Follows.refl (c : MutexCall) : Follows c c := ⟨rfl, rfl, id, id, id⟩

/-- No call is lost, and none goes back. -/
def Grows (m m' : KeyedMutex) : Prop :=
  ∀ (i : Nat) c, m.calls[i]? = some c → ∃ c', m'.calls[i]? = some c' ∧ Follows c c'

/-- No call is new. -/
def Back (m m' : KeyedMutex) : Prop :=
  ∀ (i : Nat) c', m'.calls[i]? = some c' → ∃ c, m.calls[i]? = some c ∧ Follows c c'

variable {m m' : KeyedMutex} {i : Nat} {c c' : MutexCall} {key : JsString}

theorem getElem?_put (m : KeyedMutex) (c : MutexCall) (i n : Nat) :
    (m.put i c).calls[n]? = if i = n then (if i < m.calls.length then some c else none) else m.calls[n]? :=
  List.getElem?_set

theorem put_self (hc : m.calls[i]? = some c) : (m.put i c').calls[i]? = some c' := by
  rw [getElem?_put, if_pos rfl, if_pos (List.getElem?_eq_some_iff.mp hc).1]

theorem put_of_ne {n : Nat} (h : i ≠ n) : (m.put i c).calls[n]? = m.calls[n]? := by
  rw [getElem?_put, if_neg h]

theorem grows_put (hc : m.calls[i]? = some c) (h : Follows c c') : Grows m (m.put i c') := by
  intro n d hd
  by_cases hn : i = n
  · subst hn
    obtain rfl : c = d := Option.some.inj (hc.symm.trans hd)
    exact ⟨c', put_self hc, h⟩
  · exact ⟨d, (put_of_ne hn).trans hd, Follows.refl d⟩

theorem back_put (hc : m.calls[i]? = some c) (h : Follows c c') : Back m (m.put i c') := by
  intro n d hd
  by_cases hn : i = n
  · subst hn
    obtain rfl : c' = d := Option.some.inj ((put_self hc).symm.trans hd)
    exact ⟨c, hc, h⟩
  · exact ⟨d, (put_of_ne hn).symm.trans hd, Follows.refl d⟩

@[simp] theorem cleanup_calls (m : KeyedMutex) (key : JsString) (i : Nat) : (m.cleanup key i).calls = m.calls := by
  unfold cleanup
  split <;> rfl

theorem Grows.resolved (h : Grows m m') {previous : Option Nat} (hp : m.resolved previous) : m'.resolved previous := by
  cases previous with
  | none => rfl
  | some j =>
    obtain ⟨d, hd, hsettled⟩ := (Option.any_eq_true ..).mp hp
    obtain ⟨d', hd', hfollows⟩ := h j d hd
    exact (Option.any_eq_true ..).mpr ⟨d', hd', hfollows.settled hsettled⟩

/-- The calls after an arrival. -/
theorem arrive_cases {n : Nat} {d : MutexCall} (h : (m.arrive key).calls[n]? = some d) :
    m.calls[n]? = some d ∨
      n = m.calls.length ∧ d = { key, previous := m.tails key, phase := .waiting, settled := false } := by
  rcases Nat.lt_trichotomy n m.calls.length with hn | hn | hn
  · exact Or.inl ((List.getElem?_append_left hn).symm.trans h)
  · subst hn
    refine Or.inr ⟨rfl, ?_⟩
    simpa [arrive] using h.symm
  · rw [List.getElem?_eq_none (by simpa [arrive] using hn)] at h
    cases h

theorem lt_length {n : Nat} {d : MutexCall} (h : m.calls[n]? = some d) : n < m.calls.length :=
  (List.getElem?_eq_some_iff.mp h).1

theorem arrive_old {n : Nat} {d : MutexCall} (h : m.calls[n]? = some d) : (m.arrive key).calls[n]? = some d :=
  (List.getElem?_append_left (lt_length h)).trans h

theorem arrive_new (m : KeyedMutex) (key : JsString) : (m.arrive key).calls[m.calls.length]? =
    some { key, previous := m.tails key, phase := .waiting, settled := false } := by
  simp [arrive]

theorem grows_arrive (m : KeyedMutex) (key : JsString) : Grows m (m.arrive key) :=
  fun _ d hd => ⟨d, arrive_old hd, Follows.refl d⟩

/-! ## The queue of a key -/

/-- All calls of a key before a place in the order have ended. -/
def EndedBefore (m : KeyedMutex) (key : JsString) (i : Nat) : Prop :=
  ∀ (n : Nat) d, m.calls[n]? = some d → d.key = key → n < i → d.phase.ended

/-- The `j`-th call is the last one of its key before a place in the order. -/
def LastBefore (m : KeyedMutex) (key : JsString) (i j : Nat) : Prop :=
  j < i ∧ (∃ d, m.calls[j]? = some d ∧ d.key = key) ∧
    ∀ (n : Nat) d, m.calls[n]? = some d → d.key = key → n < i → n ≤ j

/-- What a call relies on whose `previous` is given: it is behind the last call of its key, or behind none in progress. -/
def Behind (m : KeyedMutex) (key : JsString) (i : Nat) : Option Nat → Prop
  | none => m.EndedBefore key i
  | some j => m.LastBefore key i j

/-- The invariant: the map holds what the next call of a key must wait for, and so did it for each call. -/
structure Queued (m : KeyedMutex) : Prop where
  tails : ∀ key, m.Behind key m.calls.length (m.tails key)
  calls : ∀ (i : Nat) c, m.calls[i]? = some c → m.Behind c.key i c.previous
  started : ∀ (i : Nat) c, m.calls[i]? = some c → c.phase ≠ .waiting → m.resolved c.previous
  settled : ∀ (i : Nat) c, m.calls[i]? = some c → c.settled → c.phase.ended

/-- Behind a resolved tail, all earlier calls of the key have ended. -/
theorem Queued.earlier_ended (hm : m.Queued) :
    ∀ {i c}, m.calls[i]? = some c → m.resolved c.previous → m.EndedBefore c.key i := by
  intro i
  induction i using Nat.strong_induction_on with
  | _ i ih =>
    intro c hc hresolved
    have hbehind := hm.calls i c hc
    cases hp : c.previous with
    | none =>
      rw [hp] at hbehind
      exact hbehind
    | some j =>
      rw [hp] at hbehind hresolved
      obtain ⟨hlt, ⟨d, hd, hkey⟩, hlast⟩ := hbehind
      obtain ⟨d', hd', hsettled⟩ := (Option.any_eq_true ..).mp hresolved
      obtain rfl : d = d' := Option.some.inj (hd.symm.trans hd')
      have hended := hm.settled j d hd hsettled
      intro n e he hekey hn
      rcases (hlast n e he hekey hn).eq_or_lt with rfl | hnj
      · obtain rfl : d = e := Option.some.inj (hd.symm.trans he)
        exact hended
      · -- the call before this one started, so its own `previous` is resolved
        have hbefore := ih j hlt hd (hm.started j d hd (MutexPhase.started_of_ended hended))
        exact hbefore n e he (hekey.trans hkey.symm) hnj

theorem EndedBefore.mono (h : Back m m') {i : Nat} (hm : m.EndedBefore key i) : m'.EndedBefore key i := by
  intro n d' hd' hkey hn
  obtain ⟨d, hd, hfollows⟩ := h n d' hd'
  exact hfollows.ended (hm n d hd (hfollows.key.symm.trans hkey) hn)

theorem Behind.mono (hgrows : Grows m m') (hback : Back m m') {i : Nat} {previous : Option Nat}
    (hm : m.Behind key i previous) : m'.Behind key i previous := by
  cases previous with
  | none => exact EndedBefore.mono hback hm
  | some j =>
    obtain ⟨hlt, ⟨d, hd, hkey⟩, hlast⟩ := hm
    obtain ⟨d', hd', hfollows⟩ := hgrows j d hd
    refine ⟨hlt, ⟨d', hd', hfollows.key.trans hkey⟩, fun n e' he' hekey hn => ?_⟩
    obtain ⟨e, he, hfollows⟩ := hback n e' he'
    exact hlast n e he (hfollows.key.symm.trans hekey) hn

/-- A call that arrives is behind no other one. -/
theorem Behind.arrive {other : JsString} {i : Nat} (hi : i ≤ m.calls.length) {previous : Option Nat}
    (hm : m.Behind key i previous) : (m.arrive other).Behind key i previous := by
  have hback : ∀ (n : Nat) d, (m.arrive other).calls[n]? = some d → n < i → m.calls[n]? = some d := by
    intro n d hd hn
    rcases arrive_cases hd with h | ⟨rfl, -⟩
    · exact h
    · omega
  cases previous with
  | none => exact fun n d hd hkey hn => hm n d (hback n d hd hn) hkey hn
  | some j =>
    obtain ⟨hlt, ⟨d, hd, hkey⟩, hlast⟩ := hm
    exact ⟨hlt, ⟨d, arrive_old hd, hkey⟩, fun n e he hekey hn => hlast n e (hback n e he hn) hekey hn⟩

theorem queued_empty : empty.Queued := by
  refine ⟨fun key n d hd => ?_, fun i c hc => ?_, fun i c hc => ?_, fun i c hc => ?_⟩ <;>
    cases (List.getElem?_nil ..).symm.trans ‹_›

theorem Queued.arrive (hm : m.Queued) (key : JsString) : (m.arrive key).Queued := by
  refine ⟨fun other => ?_, fun i c hc => ?_, fun i c hc hstarted => ?_, fun i c hc hsettled => ?_⟩
  · by_cases hkey : other = key
    · subst hkey
      have htail : (m.arrive other).tails other = some m.calls.length := Function.update_self ..
      rw [htail]
      refine ⟨by simp [KeyedMutex.arrive], ⟨_, arrive_new m other, rfl⟩, fun n d hd _ _ => ?_⟩
      rcases arrive_cases hd with h | ⟨rfl, -⟩
      · exact (lt_length h).le
      · exact le_refl _
    · have htail : (m.arrive key).tails other = m.tails other := Function.update_of_ne hkey _ _
      rw [htail]
      have hold : (m.arrive key).Behind other m.calls.length (m.tails other) := (hm.tails other).arrive (le_refl _)
      -- the new call is of another key
      have hnew : ∀ (n : Nat) d, (m.arrive key).calls[n]? = some d → d.key = other → n < m.calls.length := by
        intro n d hd hdkey
        rcases arrive_cases hd with h | ⟨rfl, rfl⟩
        · exact lt_length h
        · exact absurd hdkey.symm hkey
      cases hp : m.tails other with
      | none =>
        rw [hp] at hold
        exact fun n d hd hdkey _ => hold n d hd hdkey (hnew n d hd hdkey)
      | some j =>
        rw [hp] at hold
        obtain ⟨hlt, hj, hlast⟩ := hold
        refine ⟨?_, hj, fun n d hd hdkey _ => hlast n d hd hdkey (hnew n d hd hdkey)⟩
        simp only [KeyedMutex.arrive, List.length_append, List.length_singleton]
        omega
  · rcases arrive_cases hc with h | ⟨rfl, rfl⟩
    · exact (hm.calls i c h).arrive (lt_length h).le
    · exact (hm.tails key).arrive (le_refl _)
  · rcases arrive_cases hc with h | ⟨rfl, rfl⟩
    · exact (grows_arrive m key).resolved (hm.started i c h hstarted)
    · exact absurd rfl hstarted
  · rcases arrive_cases hc with h | ⟨rfl, rfl⟩
    · exact hm.settled i c h hsettled
    · cases hsettled

/-- A call goes on. -/
theorem Queued.put (hm : m.Queued) (hc : m.calls[i]? = some c) (h : Follows c c')
    (hstarted : c'.phase ≠ .waiting → m.resolved c.previous) (hsettled : c'.settled → c'.phase.ended) :
    (m.put i c').Queued := by
  have hgrows : Grows m (m.put i c') := grows_put hc h
  have hback : Back m (m.put i c') := back_put hc h
  refine ⟨fun key => ?_, fun n d hd => ?_, fun n d hd => ?_, fun n d hd => ?_⟩
  · have hlength : (m.put i c').calls.length = m.calls.length := List.length_set
    rw [hlength]
    exact (hm.tails key).mono hgrows hback
  · obtain ⟨d0, hd0, hfollows⟩ := hback n d hd
    rw [hfollows.key, hfollows.previous]
    exact (hm.calls n d0 hd0).mono hgrows hback
  · by_cases hn : i = n
    · subst hn
      obtain rfl : c' = d := Option.some.inj ((put_self hc).symm.trans hd)
      intro hd'
      rw [h.previous]
      exact hgrows.resolved (hstarted hd')
    · intro hd'
      exact hgrows.resolved (hm.started n d ((put_of_ne hn).symm.trans hd) hd')
  · by_cases hn : i = n
    · subst hn
      obtain rfl : c' = d := Option.some.inj ((put_self hc).symm.trans hd)
      exact hsettled
    · exact hm.settled n d ((put_of_ne hn).symm.trans hd)

/-- The entry of a call that has ended may go when the call is the tail of its key. -/
theorem Queued.cleanup (hm : m.Queued) (hc : m.calls[i]? = some c) (hended : c.phase.ended) :
    (m.cleanup c.key i).Queued := by
  by_cases htail : m.tails c.key = some i
  · have hbefore := hm.earlier_ended hc (hm.started i c hc (MutexPhase.started_of_ended hended))
    have hbehind := hm.tails c.key
    rw [htail] at hbehind
    obtain ⟨-, -, hlast⟩ := hbehind
    rw [KeyedMutex.cleanup, if_pos htail]
    refine ⟨fun key => ?_, hm.calls, hm.started, hm.settled⟩
    by_cases hkey : key = c.key
    · subst hkey
      have hnone : Function.update m.tails c.key none c.key = none := Function.update_self ..
      show Behind _ _ _ (Function.update m.tails c.key none c.key)
      rw [hnone]
      intro n d hd hdkey hn
      rcases (hlast n d hd hdkey hn).eq_or_lt with rfl | hlt
      · obtain rfl : c = d := Option.some.inj (hc.symm.trans hd)
        exact hended
      · exact hbefore n d hd hdkey hlt
    · show Behind _ _ _ (Function.update m.tails c.key none key)
      rw [Function.update_of_ne hkey]
      exact hm.tails key
  · rw [KeyedMutex.cleanup, if_neg htail]
    exact hm

/-! ## Every run -/

theorem queued_step {l : MutexLabel} (hm : m.Queued) (h : m.next l = some m') : m'.Queued := by
  obtain ⟨key, -, rfl⟩ | ⟨i, c, -, hc, hended, hprevious, rfl⟩ | ⟨i, c, -, hc, hwaiting, hprevious, rfl⟩ |
    ⟨i, c, throws, -, hc, hrunning, rfl⟩ := next_cases h
  · exact hm.arrive key
  · exact hm.put hc ⟨rfl, rfl, id, id, fun _ => rfl⟩ (fun _ => hprevious) (fun _ => hended)
  · have hunsettled : ¬ c.settled := by
      intro hsettled
      have hended := hm.settled i c hc hsettled
      rw [hwaiting] at hended
      cases hended
    refine hm.put hc ⟨rfl, rfl, fun h => absurd hwaiting h, fun hended => ?_, id⟩ (fun _ => hprevious) (absurd · hunsettled)
    rw [hwaiting] at hended
    cases hended
  · have hstarted : c.phase ≠ .waiting := by simp [hrunning]
    have hended : ∀ throws : Bool, (if throws then MutexPhase.threw else .returned).ended := by decide
    have hput : (m.put i { c with phase := if throws then .threw else .returned }).Queued :=
      hm.put hc ⟨rfl, rfl, fun _ => MutexPhase.started_of_ended (hended throws), fun _ => hended throws, id⟩
        (fun _ => hm.started i c hc hstarted) (fun _ => hended throws)
    exact hput.cleanup (c := { c with phase := if throws then .threw else .returned }) (put_self hc) (hended throws)

theorem queued_of_run {ls : List MutexLabel} (h : system.Run ls m) : m.Queued := by
  refine System.Run.induction (S := system) (I := fun _ m => m.Queued) ?_ ?_ h
  · rintro m rfl
    exact queued_empty
  · exact fun _ _ _ _ _ ih hstep => queued_step ih hstep

/-- No step takes back what a call has reached. -/
theorem grows_next {l : MutexLabel} (h : m.next l = some m') : Grows m m' := by
  obtain ⟨key, -, rfl⟩ | ⟨i, c, -, hc, -, -, rfl⟩ | ⟨i, c, -, hc, hwaiting, -, rfl⟩ |
    ⟨i, c, throws, -, hc, hrunning, rfl⟩ := next_cases h
  · exact grows_arrive m key
  · exact grows_put hc ⟨rfl, rfl, id, id, fun _ => rfl⟩
  · refine grows_put hc ⟨rfl, rfl, fun h => absurd hwaiting h, fun hended => ?_, id⟩
    rw [hwaiting] at hended
    cases hended
  · have hended : ∀ throws : Bool, (if throws then MutexPhase.threw else .returned).ended := by decide
    have hput : Grows m (m.put i { c with phase := if throws then .threw else .returned }) :=
      grows_put hc ⟨rfl, rfl, fun _ => MutexPhase.started_of_ended (hended throws), fun _ => hended throws, id⟩
    intro n d hd
    obtain ⟨d', hd', hfollows⟩ := hput n d hd
    exact ⟨d', by rwa [cleanup_calls], hfollows⟩

theorem next_start_isSome :
    (m.next (.start i)).isSome ↔ ∃ c, m.calls[i]? = some c ∧ c.phase = .waiting ∧ m.resolved c.previous := by
  constructor
  · intro h
    obtain ⟨t, ht⟩ := Option.isSome_iff_exists.mp h
    obtain ⟨key, hl, -⟩ | ⟨j, c, hl, -⟩ | ⟨j, c, hl, hc, hwaiting, hprevious, -⟩ | ⟨j, c, throws, hl, -⟩ := next_cases ht
    · cases hl
    · cases hl
    · cases hl
      exact ⟨c, hc, hwaiting, hprevious⟩
    · cases hl
  · rintro ⟨c, hc, hwaiting, hprevious⟩
    simp [next, hc, hwaiting, hprevious]

/-- Only its own start takes a call out of the queue. -/
theorem waiting_next {l : MutexLabel} (h : m.next l = some m') (hl : l ≠ .start i) (hc : m.calls[i]? = some c)
    (hwaiting : c.phase = .waiting) : ∃ c', m'.calls[i]? = some c' ∧ c'.phase = .waiting ∧ c'.previous = c.previous := by
  obtain ⟨key, -, rfl⟩ | ⟨j, d, -, hd, hended, -, rfl⟩ | ⟨j, d, rfl, hd, -, -, rfl⟩ |
    ⟨j, d, throws, -, hd, hrunning, rfl⟩ := next_cases h
  · exact ⟨c, arrive_old hc, hwaiting, rfl⟩
  · by_cases hj : j = i
    · subst hj
      obtain rfl : d = c := Option.some.inj (hd.symm.trans hc)
      rw [hwaiting] at hended
      cases hended
    · exact ⟨c, (put_of_ne hj).trans hc, hwaiting, rfl⟩
  · have hj : j ≠ i := fun h => hl (congrArg _ h)
    exact ⟨c, (put_of_ne hj).trans hc, hwaiting, rfl⟩
  · by_cases hj : j = i
    · subst hj
      obtain rfl : d = c := Option.some.inj (hd.symm.trans hc)
      rw [hwaiting] at hrunning
      cases hrunning
    · exact ⟨c, by rw [cleanup_calls]; exact (put_of_ne hj).trans hc, hwaiting, rfl⟩

/-- A waiting call whose `previous` has ended can start at once, or after that tail resolves. -/
theorem Queued.can_start (hm : m.Queued) (hc : m.calls[i]? = some c) (hwaiting : c.phase = .waiting)
    (hended : m.EndedBefore c.key i) :
    ∃ ks t, system.Steps m ks t ∧ (∀ k ∈ ks, ∃ j d, k = .settle j ∧ m.calls[j]? = some d ∧ d.key = c.key) ∧
      (t.next (.start i)).isSome := by
  have hbehind := hm.calls i c hc
  cases hp : c.previous with
  | none => exact ⟨[], m, .nil m, by simp, next_start_isSome.mpr ⟨c, hc, hwaiting, by rw [hp]; rfl⟩⟩
  | some j =>
    rw [hp] at hbehind
    obtain ⟨hlt, ⟨d, hd, hkey⟩, -⟩ := hbehind
    have hdended := hended j d hd hkey hlt
    have hprevious := hm.started j d hd (MutexPhase.started_of_ended hdended)
    have hsettle : m.next (.settle j) = some (m.put j { d with settled := true }) := by
      simp [next, hd, hdended, hprevious]
    refine ⟨[.settle j], _, .single hsettle, ?_, next_start_isSome.mpr ⟨c, ?_, hwaiting, ?_⟩⟩
    · intro k hk
      exact ⟨j, d, List.mem_singleton.mp hk, hd, hkey⟩
    · exact (put_of_ne hlt.ne).trans hc
    · rw [hp, resolved, put_self hd]
      rfl

end KeyedMutex

open KeyedMutex in
/-- **The keyed mutex.** In every state that calls of `runExclusive` can reach, with any keys and with `fn`s that return or
throw: one `fn` of a key at most is in progress; when a call has started, all earlier ones of its key have ended, so they
started before it; a waiting call whose earlier calls of the same key have all ended, by a return or a throw, can start
without a step of another key; and no other step takes this possibility away. -/
theorem runExclusive_serializes {ls : List MutexLabel} {m : KeyedMutex} (h : system.Run ls m) :
    (∀ (i j : Nat) c d, m.calls[i]? = some c → m.calls[j]? = some d → c.key = d.key → c.phase = .running →
      d.phase = .running → i = j) ∧
    (∀ (i j : Nat) c d, m.calls[i]? = some c → m.calls[j]? = some d → c.key = d.key → i < j → d.phase ≠ .waiting →
      c.phase = .returned ∨ c.phase = .threw) ∧
    (∀ (i : Nat) c, m.calls[i]? = some c → c.phase = .waiting →
      (∀ (n : Nat) e, m.calls[n]? = some e → e.key = c.key → n < i → e.phase = .returned ∨ e.phase = .threw) →
      ∃ ks t, system.Steps m ks t ∧ (∀ k ∈ ks, ∃ j d, k = .settle j ∧ m.calls[j]? = some d ∧ d.key = c.key) ∧
        (t.next (.start i)).isSome) ∧
    ∀ i l t, (m.next (.start i)).isSome → m.next l = some t → l ≠ .start i → (t.next (.start i)).isSome := by
  have hm : m.Queued := queued_of_run h
  have hphase : ∀ phase : MutexPhase, phase.ended ↔ phase = .returned ∨ phase = .threw := by
    rintro (_ | _ | _ | _) <;> decide
  have horder : ∀ (i j : Nat) c d, m.calls[i]? = some c → m.calls[j]? = some d → c.key = d.key → i < j →
      d.phase ≠ .waiting → c.phase.ended :=
    fun i j c d hc hd hkey hij hstarted => hm.earlier_ended hd (hm.started j d hd hstarted) i c hc hkey hij
  refine ⟨fun i j c d hc hd hkey hi hj => ?_, fun i j c d hc hd hkey hij hstarted => ?_, fun i c hc hwaiting hended => ?_,
    fun i l t hi hl hne => ?_⟩
  · rcases Nat.lt_trichotomy i j with hij | hij | hij
    · have hended := horder i j c d hc hd hkey hij (by simp [hj])
      rw [hi] at hended
      cases hended
    · exact hij
    · have hended := horder j i d c hd hc hkey.symm hij (by simp [hi])
      rw [hj] at hended
      cases hended
  · exact (hphase _).mp (horder i j c d hc hd hkey hij hstarted)
  · exact hm.can_start hc hwaiting fun n e he hkey hn => (hphase _).mpr (hended n e he hkey hn)
  · obtain ⟨c, hc, hwaiting, hprevious⟩ := next_start_isSome.mp hi
    obtain ⟨c', hc', hwaiting', hp⟩ := waiting_next hl hne hc hwaiting
    exact next_start_isSome.mpr ⟨c', hc', hwaiting', by rw [hp]; exact (grows_next hl).resolved hprevious⟩

/-- Two calls of one key and one of another; the first `fn` throws while the other key is busy. -/
def overlappingCalls : List MutexLabel :=
  [.call (js "r1"), .call (js "r1"), .call (js "r2"), .start 0, .start 2, .finish 0 true, .settle 0, .start 1]

/-- There, the second call of the key runs behind the one that threw. -/
theorem runExclusive_serializes_overlapping :
    ∃ m, KeyedMutex.system.Run overlappingCalls m ∧ (m.calls[1]?.map MutexCall.phase) = some .running ∧
      ∀ c, m.calls[0]? = some c → c.phase = .returned ∨ c.phase = .threw := by
  have hsome : ((System.execute KeyedMutex.next overlappingCalls KeyedMutex.empty).bind (·.calls[1]?)) =
      some ⟨js "r1", some 0, .running, false⟩ := by decide
  obtain ⟨m, hm, hsecond⟩ := Option.bind_eq_some_iff.mp hsome
  have hfirst : ((System.execute KeyedMutex.next overlappingCalls KeyedMutex.empty).bind (·.calls[0]?)) =
      some ⟨js "r1", none, .threw, true⟩ := by decide
  have hrun : KeyedMutex.system.Run overlappingCalls m :=
    ⟨_, rfl, System.Steps.of_execute (fun _ _ _ h => h) hm⟩
  refine ⟨m, hrun, by rw [hsecond]; rfl, fun c hc => ?_⟩
  rw [hm, Option.bind_some] at hfirst
  obtain rfl : _ = c := Option.some.inj (hfirst.symm.trans hc)
  exact (runExclusive_serializes hrun).2.1 0 1 _ _ hfirst hsecond rfl (by decide) (by decide)

end RouteGuard.Reservation
