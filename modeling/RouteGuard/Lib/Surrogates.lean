import RouteGuard.Lib.TextCodec

/-!
# Texts with unpaired surrogates

An encoder writes U+FFFD for a surrogate without its partner, so that several texts have the same bytes.

* `mend` : the text that is written; two texts have the same bytes exactly when they are mended alike (`utf8_eq_iff`);
* `unpaired` : the unpaired surrogates at their places; with them a text is found again (`eq_of_mend`);
* `mend_append_of_plain`, `mend_append_cons`, `count_mend` : texts made of parts.
-/

open JsString Json

namespace TextCodec

def isSurrogate (u : UInt16) : Bool := isHighSurrogate u || isLowSurrogate u

def mendUnit (u : UInt16) : UInt16 := if isSurrogate u then 0xFFFD else u

def unpairedUnit (u : UInt16) : Option UInt16 := if isSurrogate u then some u else none

/-- `toWellFormed`: each unpaired surrogate is replaced by U+FFFD. -/
def mend : JsString → JsString
  | [] => []
  | [u] => [mendUnit u]
  | u :: v :: rest =>
    if isHighSurrogate u && isLowSurrogate v then u :: v :: mend rest else mendUnit u :: mend (v :: rest)

/-- At each place the unpaired surrogate that stands there. -/
def unpaired : JsString → List (Option UInt16)
  | [] => []
  | [u] => [unpairedUnit u]
  | u :: v :: rest =>
    if isHighSurrogate u && isLowSurrogate v then none :: none :: unpaired rest
    else unpairedUnit u :: unpaired (v :: rest)

variable {u : UInt16} {s t : JsString}

theorem isSurrogate_eq_false : isSurrogate u = false ↔ isHighSurrogate u = false ∧ isLowSurrogate u = false :=
  Bool.or_eq_false_iff

theorem isSurrogate_of_lt (h : u.toNat < 0xD800) : isSurrogate u = false := by
  rw [isSurrogate_eq_false, Bool.eq_false_iff, Bool.eq_false_iff, Ne, Ne, surrogate_iff.1, surrogate_iff.2]
  omega

theorem isSurrogate_mendUnit (u : UInt16) : isSurrogate (mendUnit u) = false := by
  unfold mendUnit
  split
  · decide
  · next h => exact Bool.not_eq_true _ ▸ h

theorem mendUnit_of_plain (h : isSurrogate u = false) : mendUnit u = u := if_neg (by rw [h]; decide)

theorem utf8Unit_mendUnit (u : UInt16) : Uri.utf8Bytes (mendUnit u).toNat = Sha256.utf8Unit u := by
  unfold mendUnit Sha256.utf8Unit isSurrogate
  split <;> rfl

/-! ## Bytes -/

theorem wellFormed_mend (s : JsString) : WellFormed (mend s) := by
  fun_induction mend s with
  | case1 => trivial
  | case2 u => exact isSurrogate_eq_false.mp (isSurrogate_mendUnit u)
  | case3 u v rest h ih =>
    rw [Bool.and_eq_true] at h
    exact .pair h.1 h.2 ih
  | case4 u v rest h ih =>
    have hu := isSurrogate_eq_false.mp (isSurrogate_mendUnit u)
    exact .cons hu.1 hu.2 ih

theorem utf8_mend (s : JsString) : Sha256.utf8 (mend s) = Sha256.utf8 s := by
  fun_induction mend s with
  | case1 => rfl
  | case2 u =>
    have hu := isSurrogate_eq_false.mp (isSurrogate_mendUnit u)
    rw [utf8_cons hu.1 hu.2, utf8Unit_mendUnit, Sha256.utf8]
    exact List.append_nil _
  | case3 u v rest h ih =>
    rw [Bool.and_eq_true] at h
    rw [utf8_pair h.1 h.2, utf8_pair h.1 h.2, ih]
  | case4 u v rest h ih =>
    have hu := isSurrogate_eq_false.mp (isSurrogate_mendUnit u)
    rw [utf8_cons hu.1 hu.2, utf8Unit_mendUnit, ih, Sha256.utf8, if_neg h]

/-- The bytes of a text determine the mended text, and nothing more. -/
theorem utf8_eq_iff : Sha256.utf8 s = Sha256.utf8 t ↔ mend s = mend t := by
  rw [← utf8_mend s, ← utf8_mend t]
  exact ⟨utf8_injective (wellFormed_mend s) (wellFormed_mend t), congrArg _⟩

/-! ## The text again -/

/-- The unpaired surrogates put back. -/
def restore (lone : List (Option UInt16)) (mended : JsString) : JsString := lone.zipWith (fun l u => l.getD u) mended

theorem getD_unpairedUnit (u : UInt16) : (unpairedUnit u).getD (mendUnit u) = u := by
  unfold unpairedUnit mendUnit
  split <;> rfl

theorem restore_mend (s : JsString) : restore (unpaired s) (mend s) = s := by
  fun_induction mend s with
  | case1 => rfl
  | case2 u => exact congrArg (fun u => [u]) (getD_unpairedUnit u)
  | case3 u v rest h ih =>
    rw [unpaired, if_pos h]
    exact congrArg (fun rest => u :: v :: rest) ih
  | case4 u v rest h ih =>
    rw [unpaired, if_neg h]
    exact congrArg₂ List.cons (getD_unpairedUnit u) ih

theorem eq_of_mend (hmend : mend s = mend t) (hunpaired : unpaired s = unpaired t) : s = t := by
  rw [← restore_mend s, ← restore_mend t, hmend, hunpaired]

/-! ## Parts -/

theorem mend_cons_of_plain (hu : isSurrogate u = false) (s : JsString) : mend (u :: s) = u :: mend s := by
  cases s with
  | nil => exact congrArg (fun u => [u]) (mendUnit_of_plain hu)
  | cons v rest =>
    have hhigh : ¬ (isHighSurrogate u && isLowSurrogate v) = true := by
      rw [(isSurrogate_eq_false.mp hu).1, Bool.false_and]
      decide
    rw [mend, if_neg hhigh, mendUnit_of_plain hu]

theorem mend_append_of_plain (hs : ∀ u ∈ s, isSurrogate u = false) (t : JsString) : mend (s ++ t) = s ++ mend t := by
  induction s with
  | nil => rfl
  | cons u s ih =>
    rw [List.cons_append, mend_cons_of_plain (hs u List.mem_cons_self), ih fun v hv => hs v (List.mem_cons_of_mem _ hv),
      List.cons_append]

theorem mend_append_cons (hu : isSurrogate u = false) (s t : JsString) : mend (s ++ u :: t) = mend s ++ u :: mend t := by
  rw [← mend_cons_of_plain hu t]
  fun_induction mend s with
  | case1 => rfl
  | case2 v =>
    have hlow : ¬ (isHighSurrogate v && isLowSurrogate u) = true := by
      rw [(isSurrogate_eq_false.mp hu).2, Bool.and_false]
      decide
    show mend (v :: u :: t) = mendUnit v :: mend (u :: t)
    rw [mend, if_neg hlow]
  | case3 v w rest h ih =>
    show mend (v :: w :: (rest ++ u :: t)) = v :: w :: (mend rest ++ mend (u :: t))
    rw [mend, if_pos h, ih]
  | case4 v w rest h ih =>
    show mend (v :: w :: (rest ++ u :: t)) = mendUnit v :: (mend (w :: rest) ++ mend (u :: t))
    rw [mend, if_neg h]
    exact congrArg _ ih

theorem count_mendUnit (hu : isSurrogate u = false) (hne : u ≠ 0xFFFD) (v : UInt16) : (mendUnit v == u) = (v == u) := by
  unfold mendUnit
  split
  · next hv =>
    have hvu : v ≠ u := by
      rintro rfl
      rw [hu] at hv
      cases hv
    rw [beq_eq_false_iff_ne.mpr hvu, beq_eq_false_iff_ne.mpr hne.symm]
  · rfl

theorem count_mend (hu : isSurrogate u = false) (hne : u ≠ 0xFFFD) (s : JsString) : (mend s).count u = s.count u := by
  fun_induction mend s with
  | case1 => rfl
  | case2 v => rw [List.count_singleton, List.count_singleton, count_mendUnit hu hne]
  | case3 v w rest h ih => rw [List.count_cons, List.count_cons, List.count_cons, List.count_cons, ih]
  | case4 v w rest h ih => rw [List.count_cons, ih, List.count_cons (l := w :: rest), count_mendUnit hu hne]

end TextCodec
