import RouteGuard.Lib.Decimal
import RouteGuard.Lib.Sorting

/-!
# Digits in the order of code units

* `lt_iff_digitsValue_lt` : digit strings of one length are ordered as the numbers they denote;
* `Misplaced` : the fractions whose texts, ended by a unit above the digits, are ordered against their values;
* `terminated_lt_iff` : there are no other such fractions.
-/

namespace JsString

theorem append_lt_append_iff {a b s t : JsString} (h : a.length = b.length) :
    a ++ s < b ++ t ↔ a < b ∨ a = b ∧ s < t := by
  induction a generalizing b with
  | nil =>
    obtain rfl := List.length_eq_zero_iff.mp h.symm
    simp
  | cons u a ih =>
    cases b with
    | nil => cases h
    | cons v b =>
      rw [List.cons_append, List.cons_append, List.cons_lt_cons_iff, List.cons_lt_cons_iff, ih (by simpa using h),
        List.cons.injEq]
      tauto

theorem unit_trichotomy (u v : UInt16) : u < v ∨ u = v ∨ v < u := by
  rw [UInt16.lt_iff_toNat_lt, UInt16.lt_iff_toNat_lt, ← UInt16.toNat_inj]
  omega

/-! ## Numbers -/

theorem digitsValue_cons (u : UInt16) (s : JsString) :
    digitsValue (u :: s) = (u.toNat - 0x30) * 10 ^ s.length + digitsValue s := by
  rw [← List.singleton_append, digitsValue_append]
  simp [digitsValue]

theorem digitsValue_lt {s : JsString} (h : s.all isDigit) : digitsValue s < 10 ^ s.length := by
  induction s with
  | nil => decide
  | cons u s ih =>
    rw [List.all_cons, Bool.and_eq_true, isDigit_iff] at h
    have hrest := ih h.2
    rw [digitsValue_cons, List.length_cons, Nat.pow_succ]
    have hhead : (u.toNat - 0x30) * 10 ^ s.length ≤ 9 * 10 ^ s.length := Nat.mul_le_mul_right _ (by omega)
    omega

/-- The first digit decides. -/
theorem digitsValue_lt_of_head {u v : UInt16} {s t : JsString} (hu : isDigit u) (hs : s.all isDigit)
    (hl : s.length = t.length) (h : u < v) : digitsValue (u :: s) < digitsValue (v :: t) := by
  rw [isDigit_iff] at hu
  rw [UInt16.lt_iff_toNat_lt] at h
  have hrest := digitsValue_lt hs
  rw [digitsValue_cons, digitsValue_cons, ← hl]
  calc (u.toNat - 0x30) * 10 ^ s.length + digitsValue s < (u.toNat - 0x30 + 1) * 10 ^ s.length := by
        rw [Nat.add_mul, Nat.one_mul]
        omega
    _ ≤ (v.toNat - 0x30) * 10 ^ s.length := Nat.mul_le_mul_right _ (by omega)
    _ ≤ _ := Nat.le_add_right _ _

/-- Digit strings of one length are ordered as the numbers they denote. -/
theorem lt_iff_digitsValue_lt {a b : JsString} (ha : a.all isDigit) (hb : b.all isDigit) (h : a.length = b.length) :
    a < b ↔ digitsValue a < digitsValue b := by
  induction a generalizing b with
  | nil =>
    obtain rfl := List.length_eq_zero_iff.mp h.symm
    simp
  | cons u a ih =>
    cases b with
    | nil => cases h
    | cons v b =>
      have hlen : a.length = b.length := by simpa using h
      rw [List.all_cons, Bool.and_eq_true] at ha hb
      rw [List.cons_lt_cons_iff, ih ha.2 hb.2 hlen]
      rcases unit_trichotomy u v with huv | rfl | huv
      · exact iff_of_true (.inl huv) (digitsValue_lt_of_head ha.1 ha.2 hlen huv)
      · rw [digitsValue_cons, digitsValue_cons, hlen]
        simp
      · refine iff_of_false ?_ (digitsValue_lt_of_head hb.1 hb.2 hlen.symm huv).not_gt
        rintro (hlt | ⟨rfl, -⟩)
        · exact UInt16.lt_asymm huv hlt
        · exact UInt16.lt_irrefl _ huv

theorem eq_of_digitsValue_eq {a b : JsString} (ha : a.all isDigit) (hb : b.all isDigit) (h : a.length = b.length)
    (heq : digitsValue a = digitsValue b) : a = b := by
  rcases lt_trichotomy a b with hlt | hab | hlt
  · exact absurd ((lt_iff_digitsValue_lt ha hb h).mp hlt) (by omega)
  · exact hab
  · exact absurd ((lt_iff_digitsValue_lt hb ha h.symm).mp hlt) (by omega)

/-! ## Fractions -/

/-- The fraction `f` against `g`: the text of `f` comes first although its value does not, or its value does and not the
text. In the first case `g` is a proper beginning of `f`, in the second `f` is one of `g`, which goes on with a digit
that counts. -/
def Misplaced (f g : JsString) : Prop := (g <+: f ∧ g ≠ f) ∨ (f <+: g ∧ ∃ u ∈ g.drop f.length, u ≠ 0x30)

theorem Misplaced.cons {u : UInt16} {f g : JsString} : Misplaced (u :: f) (u :: g) ↔ Misplaced f g := by
  simp [Misplaced, List.cons_prefix_cons]

theorem not_misplaced_of_head {u v : UInt16} {f g : JsString} (h : u ≠ v) : ¬ Misplaced (u :: f) (v :: g) := by
  simp [Misplaced, List.cons_prefix_cons, h, h.symm]

theorem zeros_lt_iff {g : JsString} (hg : g.all isDigit) : List.replicate g.length 0x30 < g ↔ ∃ u ∈ g, u ≠ 0x30 := by
  induction g with
  | nil => simp
  | cons u g ih =>
    rw [List.all_cons, Bool.and_eq_true, isDigit_iff] at hg
    have hpos : 0x30 < u ↔ u ≠ 0x30 := by
      simp only [UInt16.lt_iff_toNat_lt, ne_eq, ← UInt16.toNat_inj, UInt16.reduceToNat]
      omega
    rw [List.length_cons, List.replicate_succ, List.cons_lt_cons_iff, ih hg.2, hpos]
    by_cases hu : u = 0x30
    · simp [hu]
    · simp [hu]

/-- No digits, against digits that are padded to the same width. -/
theorem zeros_lt_padEnd_iff {g : JsString} {n : Nat} (hg : g.all isDigit) (hl : g.length ≤ n) :
    padEnd [] n 0x30 < padEnd g n 0x30 ↔ ∃ u ∈ g, u ≠ 0x30 := by
  have hsplit : padEnd [] n 0x30 = List.replicate g.length 0x30 ++ List.replicate (n - g.length) 0x30 := by
    rw [padEnd, List.nil_append, ← List.replicate_add, List.length_nil]
    congr 1
    omega
  rw [hsplit, padEnd, append_lt_append_iff (by simp), zeros_lt_iff hg]
  simp

theorem not_padEnd_lt_zeros {f : JsString} {n : Nat} (hf : f.all isDigit) (hl : f.length ≤ n) :
    ¬ padEnd f n 0x30 < padEnd [] n 0x30 := by
  have hzeros : padEnd [] n 0x30 = List.replicate n 0x30 := rfl
  have hdigits : (padEnd f n 0x30).all isDigit := by
    rw [padEnd, List.all_append, hf]
    simp [show isDigit 0x30 = true from rfl]
  have hlen : (padEnd f n 0x30).length = (List.replicate n (0x30 : UInt16)).length := by
    simp only [padEnd, List.length_append, List.length_replicate]
    omega
  rw [hzeros, lt_iff_digitsValue_lt hdigits (by simp [show isDigit 0x30 = true from rfl]) hlen, digitsValue_zeros]
  omega

theorem padEnd_cons (u : UInt16) (f : JsString) (n : Nat) : padEnd (u :: f) (n + 1) 0x30 = u :: padEnd f n 0x30 := by
  simp [padEnd]

/-- A fraction is written before another exactly when it is smaller, except for the misplaced ones. The terminator `z`
lies above the digits. -/
theorem terminated_lt_iff {f g : JsString} {n : Nat} {z : UInt16} (hz : 0x39 < z) (hf : f.all isDigit)
    (hg : g.all isDigit) (hfl : f.length ≤ n) (hgl : g.length ≤ n) :
    (f ++ [z] < g ++ [z] ↔ padEnd f n 0x30 < padEnd g n 0x30) ↔ ¬ Misplaced f g := by
  have hdigit {u : UInt16} (hu : isDigit u) : u < z := by
    rw [isDigit_iff] at hu
    simp only [UInt16.lt_iff_toNat_lt, UInt16.reduceToNat] at hz ⊢
    omega
  induction f generalizing g n with
  | nil =>
    cases g with
    | nil => simp [Misplaced]
    | cons v g =>
      -- the terminator stands against a digit
      rw [List.all_cons, Bool.and_eq_true] at hg
      have htext : ¬ ([] : JsString) ++ [z] < v :: g ++ [z] := by
        rw [List.nil_append, List.cons_append, List.cons_lt_cons_iff]
        rintro (hlt | ⟨rfl, -⟩)
        · exact UInt16.lt_asymm hlt (hdigit hg.1)
        · exact UInt16.lt_irrefl _ (hdigit hg.1)
      rw [zeros_lt_padEnd_iff (by simp [hg]) hgl, iff_false_left htext]
      simp [Misplaced]
  | cons u f ih =>
    rw [List.all_cons, Bool.and_eq_true] at hf
    cases g with
    | nil =>
      have htext : u :: f ++ [z] < ([] : JsString) ++ [z] := by
        rw [List.nil_append, List.cons_append, List.cons_lt_cons_iff]
        exact .inl (hdigit hf.1)
      rw [iff_true_left htext, iff_false_left (not_padEnd_lt_zeros (by simp [hf]) hfl)]
      simp [Misplaced]
    | cons v g =>
      rw [List.all_cons, Bool.and_eq_true] at hg
      obtain ⟨n, rfl⟩ : ∃ k, n = k + 1 := ⟨n - 1, by simp at hfl; omega⟩
      have ih := ih hf.2 hg.2 (by simpa using hfl) (by simpa using hgl)
      rw [padEnd_cons, padEnd_cons, List.cons_append, List.cons_append, List.cons_lt_cons_iff, List.cons_lt_cons_iff]
      by_cases huv : u = v
      · rw [huv, Misplaced.cons]
        refine Iff.trans ?_ ih
        simp [UInt16.lt_irrefl]
      · simp [huv, not_misplaced_of_head huv]

end JsString
