import RouteGuard.Demo.Session
import RouteGuard.Lib.SlidingWindow

/-!
# The rate limiter

`DemoRateLimiter.assert` keeps the times of the accepted calls of each key, drops those that have left the window when the
next call is accepted, and stores no rejected call.

* `DemoRateLimiter.assert` : one call;
* `serveAll` : calls one after the other, with the accepted ones;
* `entries_recent` : what is stored of a key is what is recent of its accepted calls;
* `rate_limit_exact` : the bound over every window, and when a call is rejected.
-/

namespace RouteGuard.Demo
open JsString SlidingWindow

/-- The stored times of each key. -/
structure DemoRateLimiter where
  entries : JsString → Option (List Int)

def DemoRateLimiter.empty : DemoRateLimiter := ⟨fun _ => none⟩

/-- `assert` at the time `now`. -/
def DemoRateLimiter.assert (limiter : DemoRateLimiter) (now : Int) (key : JsString) (limit : Nat) (windowMs : Int) :
    Except DemoThrown Unit × DemoRateLimiter :=
  let cutoff := now - windowMs
  let timestamps := ((limiter.entries key).getD []).filter fun timestamp => cutoff < timestamp
  if limit ≤ timestamps.length then (.error (.demo .demoRateLimited (js "rate limit exceeded")), limiter)
  else (.ok (), ⟨Function.update limiter.entries key (some (timestamps ++ [now]))⟩)

/-! ## Calls in a row -/

structure RateCall where
  key : JsString
  now : Int
  deriving DecidableEq, Repr

section Calls
variable (limit : JsString → Nat) (windowMs : JsString → Int)

/-- The limiter, and the calls it has accepted. -/
structure Limited where
  limiter : DemoRateLimiter
  accepted : List RateCall

/-- The answer to a call, with the limit and the window of its key. -/
def Limited.answer (s : Limited) (call : RateCall) : Except DemoThrown Unit × DemoRateLimiter :=
  s.limiter.assert call.now call.key (limit call.key) (windowMs call.key)

def Limited.serve (s : Limited) (call : RateCall) : Limited :=
  match s.answer limit windowMs call with
  | (.ok (), limiter) => ⟨limiter, s.accepted ++ [call]⟩
  | (.error _, limiter) => ⟨limiter, s.accepted⟩

/-- Calls from the start of the process. -/
def serveAll (calls : List RateCall) : Limited := calls.foldl (Limited.serve limit windowMs) ⟨.empty, []⟩

/-- The times of the accepted calls of a key. -/
def Limited.times (s : Limited) (key : JsString) : List Int :=
  (s.accepted.filter fun call => call.key = key).map RateCall.now

end Calls

section Served
variable {limit : JsString → Nat} {windowMs : JsString → Int} {s : Limited} {call : RateCall} {key : JsString}
  {calls : List RateCall}

/-- What is stored of a key. -/
def Limited.stored (s : Limited) (key : JsString) : List Int := (s.limiter.entries key).getD []

theorem answer_eq_error :
    (∃ e, (s.answer limit windowMs call).1 = .error e) ↔
      limit call.key ≤ (recent (windowMs call.key) call.now (s.stored call.key)).length := by
  simp only [Limited.answer, DemoRateLimiter.assert, Limited.stored, recent]
  split
  · next h => simp [h]
  · next h => simp [h]

/-- A rejected call leaves everything as it is. -/
theorem serve_rejected (h : limit call.key ≤ (recent (windowMs call.key) call.now (s.stored call.key)).length) :
    s.serve limit windowMs call = s := by
  have hanswer : s.answer limit windowMs call =
      (.error (.demo .demoRateLimited (js "rate limit exceeded")), s.limiter) := if_pos h
  rw [Limited.serve, hanswer]

/-- An accepted call is stored with what is recent of its key. -/
theorem serve_accepted (h : (recent (windowMs call.key) call.now (s.stored call.key)).length < limit call.key) :
    s.serve limit windowMs call =
      ⟨⟨Function.update s.limiter.entries call.key
        (some (recent (windowMs call.key) call.now (s.stored call.key) ++ [call.now]))⟩, s.accepted ++ [call]⟩ := by
  have hanswer : s.answer limit windowMs call = (.ok (), ⟨Function.update s.limiter.entries call.key
      (some (recent (windowMs call.key) call.now (s.stored call.key) ++ [call.now]))⟩) := if_neg (not_le.mpr h)
  rw [Limited.serve, hanswer]

theorem stored_update {entries : JsString → Option (List Int)} {accepted : List RateCall} (l : List Int)
    (key other : JsString) :
    Limited.stored ⟨⟨Function.update entries other (some l)⟩, accepted⟩ key =
      if key = other then l else (entries key).getD [] := by
  show (Function.update entries other (some l) key).getD [] = _
  by_cases hkey : key = other
  · rw [hkey, Function.update_self, if_pos rfl, Option.getD_some]
  · rw [Function.update_of_ne hkey, if_neg hkey]

theorem serveAll_snoc (calls : List RateCall) (call : RateCall) :
    serveAll limit windowMs (calls ++ [call]) = (serveAll limit windowMs calls).serve limit windowMs call := by
  rw [serveAll, serveAll, List.foldl_append, List.foldl_cons, List.foldl_nil]

theorem times_snoc (s : Limited) (limiter : DemoRateLimiter) (call : RateCall) (key : JsString) :
    Limited.times ⟨limiter, s.accepted ++ [call]⟩ key = s.times key ++ if call.key = key then [call.now] else [] := by
  rw [Limited.times, Limited.times, List.filter_append, List.map_append]
  by_cases hkey : call.key = key
  · simp [hkey]
  · simp [hkey]

/-- Accepted calls are calls. -/
theorem accepted_subset (calls : List RateCall) : ∀ call ∈ (serveAll limit windowMs calls).accepted, call ∈ calls := by
  induction calls using List.reverseRecOn with
  | nil => exact fun _ h => h
  | append_singleton calls call ih =>
    intro other hother
    rw [serveAll_snoc] at hother
    by_cases hfew : (recent (windowMs call.key) call.now ((serveAll limit windowMs calls).stored call.key)).length <
        limit call.key
    · rw [serve_accepted hfew, List.mem_append] at hother
      exact List.mem_append.mpr (hother.imp_left (ih other))
    · rw [serve_rejected (not_lt.mp hfew)] at hother
      exact List.mem_append_left _ (ih other hother)

theorem times_le {now : Int} (h : ∀ call ∈ calls, call.now ≤ now) :
    ∀ time ∈ (serveAll limit windowMs calls).times key, time ≤ now := by
  intro time htime
  obtain ⟨call, hcall, rfl⟩ := List.mem_map.mp htime
  exact h call (accepted_subset calls call (List.mem_filter.mp hcall).1)

/-- **What is stored.** While the clock does not run back, the stored times of a key are, as far as they are recent, the
accepted ones. -/
theorem entries_recent (hsorted : calls.Pairwise fun a b => a.now ≤ b.now) :
    ∀ now, (∀ call ∈ calls, call.now ≤ now) →
      recent (windowMs key) now ((serveAll limit windowMs calls).stored key) =
        recent (windowMs key) now ((serveAll limit windowMs calls).times key) := by
  induction calls using List.reverseRecOn with
  | nil => exact fun _ _ => rfl
  | append_singleton calls call ih =>
    intro now hnow
    obtain ⟨hbefore, -, hlast⟩ := List.pairwise_append.mp hsorted
    have hcall : ∀ other ∈ calls, other.now ≤ call.now := fun other h => hlast other h call (List.mem_singleton_self _)
    have hle : call.now ≤ now := hnow call (List.mem_append_right _ (List.mem_singleton_self _))
    have hih := ih hbefore now fun other h => (hcall other h).trans hle
    rw [serveAll_snoc]
    by_cases hfew : (recent (windowMs call.key) call.now ((serveAll limit windowMs calls).stored call.key)).length <
        limit call.key
    · rw [serve_accepted hfew, times_snoc]
      by_cases hkey : call.key = key
      · subst hkey
        rw [stored_update, if_pos rfl, if_pos rfl, recent_append, recent_append, recent_recent hle, hih]
      · rw [stored_update, if_neg (Ne.symm hkey), if_neg hkey, List.append_nil]
        exact hih
    · rw [serve_rejected (not_lt.mp hfew)]
      exact hih

/-- **The bound.** No window of a key holds more accepted calls than its limit. -/
theorem times_bounded (hsorted : calls.Pairwise fun a b => a.now ≤ b.now) :
    Bounded (limit key) (windowMs key) ((serveAll limit windowMs calls).times key) := by
  induction calls using List.reverseRecOn with
  | nil => exact bounded_nil
  | append_singleton calls call ih =>
    obtain ⟨hbefore, -, hlast⟩ := List.pairwise_append.mp hsorted
    have hcall : ∀ other ∈ calls, other.now ≤ call.now := fun other h => hlast other h call (List.mem_singleton_self _)
    rw [serveAll_snoc]
    by_cases hfew : (recent (windowMs call.key) call.now ((serveAll limit windowMs calls).stored call.key)).length <
        limit call.key
    · rw [serve_accepted hfew, times_snoc]
      by_cases hkey : call.key = key
      · subst hkey
        rw [entries_recent hbefore call.now hcall] at hfew
        rw [if_pos rfl]
        exact (ih hbefore).snoc hfew
      · rw [if_neg hkey, List.append_nil]
        exact ih hbefore
    · rw [serve_rejected (not_lt.mp hfew)]
      exact ih hbefore

end Served

/-- **The limiter is exact.** For calls of any keys in the order of a clock that does not run back, with a limit and a
window for each key: every half-open interval as long as the window holds at most the limit of accepted calls of the key,
and a call is rejected exactly when as many of its key as the limit were accepted in the window before it. -/
theorem rate_limit_exact {limit : JsString → Nat} {windowMs : JsString → Int} {calls : List RateCall}
    (hsorted : calls.Pairwise fun a b => a.now ≤ b.now) :
    (∀ key start,
      (((serveAll limit windowMs calls).times key).filter fun time =>
        start ≤ time ∧ time < start + windowMs key).length ≤ limit key ∧
      (((serveAll limit windowMs calls).times key).filter fun time =>
        start < time ∧ time ≤ start + windowMs key).length ≤ limit key) ∧
    ∀ before call after, calls = before ++ call :: after →
      ((∃ e, ((serveAll limit windowMs before).answer limit windowMs call).1 = .error e) ↔
        (((serveAll limit windowMs before).times call.key).filter fun time =>
          call.now - windowMs call.key < time ∧ time ≤ call.now).length = limit call.key) := by
  refine ⟨fun key => times_bounded hsorted, ?_⟩
  rintro before call after rfl
  obtain ⟨hbefore, -, hlater⟩ := List.pairwise_append.mp hsorted
  have hcall : ∀ other ∈ before, other.now ≤ call.now := fun other h => hlater other h call List.mem_cons_self
  have hlast : ∀ time ∈ (serveAll limit windowMs before).times call.key, time ≤ call.now := times_le hcall
  have hbounded : Bounded (limit call.key) (windowMs call.key) ((serveAll limit windowMs before).times call.key) :=
    times_bounded hbefore
  have hbound := hbounded.recent_le hlast
  have hwindow : (((serveAll limit windowMs before).times call.key).filter fun time =>
      call.now - windowMs call.key < time ∧ time ≤ call.now) =
        recent (windowMs call.key) call.now ((serveAll limit windowMs before).times call.key) := by
    refine List.filter_congr fun time htime => ?_
    simp [hlast time htime]
  rw [answer_eq_error, entries_recent hbefore call.now hcall, hwindow]
  omega

/-- Two calls in a window for one, at 0 and 59999 ms: the second is rejected. -/
theorem rate_limit_exact_two_calls :
    ∃ e, ((serveAll (fun _ => 1) (fun _ => 60000) [⟨js "session:a", 0⟩]).answer (fun _ => 1) (fun _ => 60000)
      ⟨js "session:a", 59999⟩).1 = .error e := by
  have hsorted : [RateCall.mk (js "session:a") 0, ⟨js "session:a", 59999⟩].Pairwise fun a b => a.now ≤ b.now := by
    simp
  refine ((@rate_limit_exact (fun _ => 1) (fun _ => 60000) _ hsorted).2 [⟨js "session:a", 0⟩] ⟨js "session:a", 59999⟩ [] rfl).mpr ?_
  decide

end RouteGuard.Demo
