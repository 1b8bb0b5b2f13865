import Mathlib

/-!
# Sliding windows

A limiter keeps the times it has admitted, as far as they are recent, and admits a time while fewer than a limit are kept.

* `recent` : the times that are later than the beginning of the window that ends now;
* `Bounded` : no window holds more than the limit;
* `Bounded.snoc` : a time is added while fewer than the limit are recent;
* `recent_recent` : what is recent later is found among what was recent earlier.
-/

namespace SlidingWindow

variable {α : Type*} [AddCommGroup α] [LinearOrder α] {limit : Nat} {window now now' : α} {l : List α}

/-- The times of the window that ends now. -/
def recent (window now : α) (l : List α) : List α := l.filter fun time => now - window < time

/-- Neither a window with its first instant nor one with its last instant holds more than the limit. -/
def Bounded (limit : Nat) (window : α) (l : List α) : Prop :=
  ∀ start, (l.filter fun time => start ≤ time ∧ time < start + window).length ≤ limit ∧
    (l.filter fun time => start < time ∧ time ≤ start + window).length ≤ limit

theorem recent_append (l l' : List α) : recent window now (l ++ l') = recent window now l ++ recent window now l' :=
  List.filter_append _ _

theorem bounded_nil : Bounded limit window ([] : List α) := fun _ => ⟨Nat.zero_le _, Nat.zero_le _⟩

/-- What is recent is a window that ends now. -/
theorem Bounded.recent_le (hl : Bounded limit window l) (hlast : ∀ time ∈ l, time ≤ now) :
    (recent window now l).length ≤ limit := by
  have hsame : recent window now l = l.filter fun time => now - window < time ∧ time ≤ now - window + window := by
    refine List.filter_congr fun time htime => ?_
    simp [hlast time htime]
  rw [hsame]
  exact (hl (now - window)).2

/-- A window that holds a time holds, apart from it, only what is recent then. -/
theorem length_filter_snoc {inside : α → Bool} (hinside : inside now = true → ∀ time ∈ l, inside time = true →
    now - window < time) (hbefore : (l.filter inside).length ≤ limit)
    (h : (recent window now l).length < limit) : ((l ++ [now]).filter inside).length ≤ limit := by
  rw [List.filter_append, List.length_append]
  cases hnow : inside now with
  | false =>
    rw [List.filter_singleton, hnow]
    exact hbefore
  | true =>
    have hsub : (l.filter inside).length ≤ (recent window now l).length := by
      rw [recent, ← List.countP_eq_length_filter, ← List.countP_eq_length_filter]
      exact List.countP_mono_left fun time htime hin => decide_eq_true (hinside hnow time htime hin)
    rw [List.filter_singleton, hnow]
    show (l.filter inside).length + 1 ≤ limit
    omega

variable [IsOrderedAddMonoid α]

theorem recent_recent (h : now ≤ now') : recent window now' (recent window now l) = recent window now' l := by
  rw [recent, recent, recent, List.filter_filter]
  refine List.filter_congr fun time _ => ?_
  rw [Bool.eq_iff_iff, Bool.and_eq_true, decide_eq_true_eq, decide_eq_true_eq, and_iff_left_iff_imp]
  exact fun hlate => lt_of_le_of_lt (sub_le_sub_right h window) hlate

/-- A time is added at the end while fewer than the limit are recent. -/
theorem Bounded.snoc (hl : Bounded limit window l) (h : (recent window now l).length < limit) :
    Bounded limit window (l ++ [now]) := by
  intro start
  constructor
  · refine length_filter_snoc ?_ (hl start).1 h
    simp only [decide_eq_true_eq]
    rintro ⟨-, hlt⟩ time - ⟨hle, -⟩
    exact lt_of_lt_of_le (sub_lt_iff_lt_add.mpr hlt) hle
  · refine length_filter_snoc ?_ (hl start).2 h
    simp only [decide_eq_true_eq]
    rintro ⟨-, hle⟩ time - ⟨hlt, -⟩
    exact lt_of_le_of_lt (sub_le_iff_le_add.mpr hle) hlt

end SlidingWindow
