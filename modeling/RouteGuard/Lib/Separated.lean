import Mathlib.Data.List.Basic

/-!
# Parts before a separator

A text that joins parts with a separator is taken apart again where the parts are free of the separator,
or hold it equally often.
-/

namespace Separated

variable {α : Type} [DecidableEq α] {a : α} {x y s t : List α}

/-- Parts with equally many separators are found again before the next one. -/
theorem append_cons_inj_of_count (h : x.count a = y.count a) : x ++ a :: s = y ++ a :: t ↔ x = y ∧ s = t := by
  refine ⟨fun heq => ?_, fun ⟨hx, hs⟩ => by rw [hx, hs]⟩
  induction x generalizing y with
  | nil =>
    cases y with
    | nil => exact ⟨rfl, (List.cons.inj heq).2⟩
    | cons c y =>
      obtain ⟨rfl, _⟩ := List.cons.inj heq
      simp at h
  | cons b x ih =>
    cases y with
    | nil =>
      obtain ⟨rfl, _⟩ := List.cons.inj heq
      simp at h
    | cons c y =>
      obtain ⟨rfl, hrest⟩ := List.cons.inj heq
      obtain ⟨rfl, rfl⟩ := ih (by simpa [List.count_cons] using h) hrest
      exact ⟨rfl, rfl⟩

theorem append_cons_inj (hx : a ∉ x) (hy : a ∉ y) : x ++ a :: s = y ++ a :: t ↔ x = y ∧ s = t :=
  append_cons_inj_of_count (by rw [List.count_eq_zero.mpr hx, List.count_eq_zero.mpr hy])

/-- It is enough that one first part is free of the separator, if the other rest has it at least as often. -/
theorem append_cons_inj_of_le (hy : a ∉ y) (hle : t.count a ≤ s.count a) (h : x ++ a :: s = y ++ a :: t) :
    x = y ∧ s = t := by
  have hcount := congrArg (List.count a) h
  rw [List.count_append, List.count_append, List.count_cons_self, List.count_cons_self, List.count_eq_zero.mpr hy] at hcount
  exact (append_cons_inj (List.count_eq_zero.mp (by omega)) hy).mp h

end Separated
