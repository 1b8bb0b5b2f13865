import RouteGuard.Access.Fee
import RouteGuard.Lifecycle.Deadlines

/-!
# Display amounts and smallest units

* `smallestUnitsToDisplayAmount` : from smallest units to a display amount with fixed decimals;
* `PlainDecimal`, `plainValue` : a plain decimal by its whole part and its fraction, and the number it denotes;
* `displayAmountToSmallestUnits_eq_ok_iff` : the accepted display amounts, and the exact result of each.
-/

namespace RouteGuard.Access
open JsString Guarded Lifecycle

/-- The digits with a point before the last `decimals` of them, and without the zeros at the end of the fraction. -/
def pointedDigits (raw : JsString) (decimals : Nat) : JsString :=
  let head := raw.take (raw.length - decimals)
  let whole := if head = [] then js "0" else head
  let fraction := dropTrailingZeros (raw.drop (raw.length - decimals))
  if fraction = [] then whole else whole ++ 0x2E :: fraction

/-- Smallest units to display units. -/
def smallestUnitsToDisplayAmount (smallestUnits : Int) (decimals : Nat) : Except JsString JsString := do
  require (decimals ≤ 18) (js "Invalid token decimals: " ++ decimal decimals)
  require (0 ≤ smallestUnits) (js "Smallest-unit amount must not be negative.")
  if decimals = 0 then pure (decimalInt smallestUnits)
  else pure (pointedDigits (padStart (decimalInt smallestUnits) (decimals + 1) 0x30) decimals)

/-! ## Plain decimals -/

/-- Digits, and after a point the digits of a fraction. -/
structure PlainDecimal (s whole fraction : JsString) : Prop where
  whole_ne_nil : whole ≠ []
  whole_digits : whole.all isDigit
  fraction_digits : fraction.all isDigit
  text : s = if fraction = [] then whole else whole ++ 0x2E :: fraction

/-- The number a plain decimal denotes. -/
def plainValue (whole fraction : JsString) : ℚ :=
  digitsValue whole + digitsValue fraction / 10 ^ fraction.length

theorem takeWhile_digits_append {s : JsString} {u : UInt16} {t : JsString} (h : s.all isDigit) (hu : isDigit u = false) :
    (s ++ u :: t).takeWhile isDigit = s ∧ (s ++ u :: t).dropWhile isDigit = u :: t := by
  have hs := List.all_eq_true.mp h
  rw [List.takeWhile_append_of_pos hs, List.dropWhile_append_of_pos hs]
  simp [List.takeWhile, List.dropWhile, hu]

theorem splitDisplayAmount_eq_some_iff {s whole fraction : JsString} :
    splitDisplayAmount s = some (whole, fraction) ↔ PlainDecimal s whole fraction := by
  constructor
  · intro h
    have hparts := List.takeWhile_append_dropWhile (p := isDigit) (l := s)
    have hdigits : (s.takeWhile isDigit).all isDigit := List.all_eq_true.mpr fun u hu => List.mem_takeWhile_imp hu
    unfold splitDisplayAmount at h
    split at h
    · next hrest =>
      simp only [Option.ite_none_right_eq_some, Option.some.injEq, Prod.mk.injEq] at h
      obtain ⟨hne, rfl, rfl⟩ := h
      rw [hrest, List.append_nil] at hparts
      exact ⟨hne, hdigits, rfl, hparts.symm⟩
    · next u t hrest =>
      simp only [Option.ite_none_right_eq_some, Option.some.injEq, Prod.mk.injEq] at h
      obtain ⟨⟨hne, rfl, hfne, hfd⟩, rfl, rfl⟩ := h
      refine ⟨hne, hdigits, hfd, ?_⟩
      rw [if_neg hfne, ← hrest, hparts]
  · rintro ⟨hne, hwd, hfd, rfl⟩
    unfold splitDisplayAmount
    split_ifs with hnil
    · have hall := List.all_eq_true.mp hwd
      rw [List.takeWhile_eq_self_iff.mpr hall, List.dropWhile_eq_nil_iff.mpr hall, hnil]
      simp [hne]
    · obtain ⟨ht, hd⟩ := takeWhile_digits_append (t := fraction) hwd (show isDigit 0x2E = false by decide)
      rw [ht, hd]
      simp [hne, hnil, hfd]

/-- The units of a plain decimal. -/
theorem PlainDecimal.mem {s whole fraction : JsString} (h : PlainDecimal s whole fraction) {u : UInt16} (hu : u ∈ s) :
    isDigit u ∨ u = 0x2E := by
  have hw := List.all_eq_true.mp h.whole_digits
  have hf := List.all_eq_true.mp h.fraction_digits
  rw [h.text] at hu
  split_ifs at hu with hnil
  · exact .inl (hw u hu)
  · rcases List.mem_append.mp hu with hu | hu
    · exact .inl (hw u hu)
    · exact (List.mem_cons.mp hu).elim .inr fun hu => .inl (hf u hu)

theorem PlainDecimal.ne_nil {s whole fraction : JsString} (h : PlainDecimal s whole fraction) : s ≠ [] := by
  rw [h.text]
  split_ifs
  · exact h.whole_ne_nil
  · simp

/-- A plain decimal has one whole part and one fraction. -/
theorem PlainDecimal.unique {s w f w' f' : JsString} (h : PlainDecimal s w f) (h' : PlainDecimal s w' f') :
    w = w' ∧ f = f' := by
  have heq := (splitDisplayAmount_eq_some_iff.mpr h).symm.trans (splitDisplayAmount_eq_some_iff.mpr h')
  rw [Option.some.injEq, Prod.mk.injEq] at heq
  exact heq

/-! ## The smallest units of a plain decimal -/

/-- What `BigInt` reads after the padding. -/
def unitsOf (whole fraction : JsString) (decimals : Nat) : Nat := digitsValue (whole ++ padEnd fraction decimals 0x30)

/-- The whole part and the padded fraction are the exact multiple. -/
theorem unitsOf_eq {whole fraction : JsString} {decimals : Nat} (h : fraction.length ≤ decimals) :
    (unitsOf whole fraction decimals : ℚ) = plainValue whole fraction * 10 ^ decimals := by
  have hlen : (padEnd fraction decimals 0x30).length = decimals := by
    simp only [padEnd, List.length_append, List.length_replicate]
    omega
  have hpad : digitsValue (padEnd fraction decimals 0x30) = digitsValue fraction * 10 ^ (decimals - fraction.length) := by
    rw [padEnd, digitsValue_append, digitsValue_zeros, List.length_replicate, Nat.add_zero]
  have hpow : (10 : ℚ) ^ decimals = 10 ^ fraction.length * 10 ^ (decimals - fraction.length) := by
    rw [← pow_add, Nat.add_sub_cancel' h]
  rw [unitsOf, digitsValue_append, hlen, hpad, plainValue, add_mul]
  push_cast
  rw [hpow]
  field_simp

/-- The result is the exact multiple, and it is at least one unit of a plain decimal with few enough fraction digits. -/
theorem displayAmountToSmallestUnits_eq_ok_iff {s out : JsString} {decimals : Nat} (hd : decimals ≤ 18) :
    displayAmountToSmallestUnits s decimals = .ok out ↔
      ∃ whole fraction, PlainDecimal (trim s) whole fraction ∧ fraction.length ≤ decimals ∧
        1 ≤ unitsOf whole fraction decimals ∧ out = decimal (unitsOf whole fraction decimals) := by
  simp only [displayAmountToSmallestUnits, check_eq_ok, require_eq_ok, hd, true_and]
  constructor
  · rintro ⟨-, -, h⟩
    split at h
    · cases h
    · next whole fraction hsplit =>
      simp only [check_eq_ok, require_eq_ok, pure_eq_ok] at h
      exact ⟨whole, fraction, splitDisplayAmount_eq_some_iff.mp hsplit, h.1, h.2.1, h.2.2.symm⟩
  · rintro ⟨whole, fraction, hplain, hlen, hunit, rfl⟩
    have hexp : ∀ u : UInt16, isDigit u = false → u ≠ 0x2E → u ∉ trim s := fun u hu hne hmem =>
      (hplain.mem hmem).elim (fun h => by rw [hu] at h; cases h) hne
    refine ⟨hplain.ne_nil, ⟨hexp 0x65 (by decide) (by decide), hexp 0x45 (by decide) (by decide)⟩, ?_⟩
    rw [splitDisplayAmount_eq_some_iff.mpr hplain]
    simp only [check_eq_ok, require_eq_ok, pure_eq_ok]
    exact ⟨hlen, hunit, rfl⟩

/-! ## The way back -/

/-- More digits than decimals are a plain decimal, whose units are the digits again. -/
theorem pointedDigits_plain {raw : JsString} {decimals : Nat} (hdigits : raw.all isDigit) (hlen : decimals < raw.length) :
    ∃ whole fraction, PlainDecimal (pointedDigits raw decimals) whole fraction ∧ fraction.length ≤ decimals ∧
      unitsOf whole fraction decimals = digitsValue raw := by
  have hall := List.all_eq_true.mp hdigits
  have hhead : raw.take (raw.length - decimals) ≠ [] := by
    rw [ne_eq, List.take_eq_nil_iff]
    rintro (h | h)
    · omega
    · simp [h] at hlen
  have htail : (raw.drop (raw.length - decimals)).length = decimals := by
    rw [List.length_drop]
    omega
  have hzeros := padEnd_dropTrailingZeros (raw.drop (raw.length - decimals))
  have hkept : dropTrailingZeros (raw.drop (raw.length - decimals)) <+: raw.drop (raw.length - decimals) :=
    List.rdropWhile_prefix _ _
  rw [htail] at hzeros
  refine ⟨raw.take (raw.length - decimals), dropTrailingZeros (raw.drop (raw.length - decimals)), ⟨hhead, ?_, ?_, ?_⟩,
    hkept.length_le.trans htail.le, ?_⟩
  · exact List.all_eq_true.mpr fun u hu => hall u (List.mem_of_mem_take hu)
  · exact List.all_eq_true.mpr fun u hu => hall u (List.mem_of_mem_drop (hkept.subset hu))
  · rw [pointedDigits, if_neg hhead]
  · rw [unitsOf, hzeros, List.take_append_drop]

/-- What smallest units become is a plain decimal with the same units. -/
theorem smallestUnitsToDisplayAmount_eq_ok {n decimals : Nat} (hd : decimals ≤ 18) :
    ∃ s whole fraction, smallestUnitsToDisplayAmount n decimals = .ok s ∧ PlainDecimal s whole fraction ∧
      fraction.length ≤ decimals ∧ unitsOf whole fraction decimals = n := by
  have hdigits := all_isDigit_decimal n
  have hnonneg : (0 : Int) ≤ n := Int.natCast_nonneg n
  by_cases hzero : decimals = 0
  · refine ⟨decimal n, decimal n, [], ?_, ⟨decimal_ne_nil n, hdigits, rfl, rfl⟩, Nat.zero_le _, ?_⟩
    · simp only [smallestUnitsToDisplayAmount, check_eq_ok, require_eq_ok, if_pos hzero, pure_eq_ok]
      exact ⟨hd, hnonneg, rfl⟩
    · simp [unitsOf, padEnd, hzero]
  · have hlen : decimals < (padStart (decimal n) (decimals + 1) 0x30).length := by
      simp only [padStart, List.length_append, List.length_replicate]
      omega
    obtain ⟨whole, fraction, hplain, hfraction, hunits⟩ :=
      pointedDigits_plain (all_isDigit_padStart (decimals + 1) hdigits) hlen
    rw [digitsValue_padStart, digitsValue_decimal] at hunits
    refine ⟨_, whole, fraction, ?_, hplain, hfraction, hunits⟩
    simp only [smallestUnitsToDisplayAmount, check_eq_ok, require_eq_ok, if_neg hzero, pure_eq_ok]
    exact ⟨hd, hnonneg, rfl⟩

/-- A plain decimal has no white space, so trimming leaves it alone. -/
theorem PlainDecimal.trim_eq {s whole fraction : JsString} (h : PlainDecimal s whole fraction) : trim s = s :=
  trim_of_not_whitespace fun u hu => (h.mem hu).elim not_isWhitespace_of_isDigit fun hpoint => by
    rw [hpoint]
    decide

/-! ## Both directions -/

/-- Display amounts and smallest units are inverse to each other, and a display amount is either converted exactly or
rejected: for its form, for too many fraction digits, or for being below one unit. -/
theorem display_and_atomic_inverse {decimals : Nat} (hd : decimals ≤ 18) :
    (∀ n : Int, 1 ≤ n → ∃ s, smallestUnitsToDisplayAmount n decimals = .ok s ∧
      displayAmountToSmallestUnits s decimals = .ok (decimalInt n)) ∧
    (∀ s out, displayAmountToSmallestUnits s decimals = .ok out →
      ∃ whole fraction, PlainDecimal (trim s) whole fraction ∧
        ∃ n : Nat, out = decimal n ∧ (n : ℚ) = plainValue whole fraction * 10 ^ decimals) ∧
    ∀ s, (∃ e, displayAmountToSmallestUnits s decimals = .error e) ↔
      (¬ ∃ whole fraction, PlainDecimal (trim s) whole fraction) ∨
      ∃ whole fraction, PlainDecimal (trim s) whole fraction ∧
        (decimals < fraction.length ∨ plainValue whole fraction * 10 ^ decimals < 1) := by
  refine ⟨fun n hn => ?_, fun s out h => ?_, fun s => ?_⟩
  · obtain ⟨k, rfl⟩ := Int.eq_ofNat_of_zero_le (by omega : 0 ≤ n)
    obtain ⟨s, whole, fraction, hs, hplain, hlen, hunits⟩ := smallestUnitsToDisplayAmount_eq_ok (n := k) hd
    refine ⟨s, hs, (displayAmountToSmallestUnits_eq_ok_iff hd).mpr ⟨whole, fraction, ?_, hlen, ?_, ?_⟩⟩
    · rwa [hplain.trim_eq]
    · omega
    · rw [hunits]
      rfl
  · obtain ⟨whole, fraction, hplain, hlen, -, rfl⟩ := (displayAmountToSmallestUnits_eq_ok_iff hd).mp h
    exact ⟨whole, fraction, hplain, _, rfl, unitsOf_eq hlen⟩
  · constructor
    · rintro ⟨e, he⟩
      by_contra hnot
      push Not at hnot
      obtain ⟨⟨whole, fraction, hplain⟩, hgood⟩ := hnot
      obtain ⟨hlen, hone⟩ := hgood whole fraction hplain
      rw [← unitsOf_eq hlen] at hone
      have hok := (displayAmountToSmallestUnits_eq_ok_iff hd).mpr
        ⟨whole, fraction, hplain, hlen, by exact_mod_cast hone, rfl⟩
      rw [he] at hok
      cases hok
    · intro hbad
      cases hres : displayAmountToSmallestUnits s decimals with
      | error e => exact ⟨e, rfl⟩
      | ok out =>
        obtain ⟨whole, fraction, hplain, hlen, hone, -⟩ := (displayAmountToSmallestUnits_eq_ok_iff hd).mp hres
        rcases hbad with hnone | ⟨w, f, hplain', hbad⟩
        · exact absurd ⟨whole, fraction, hplain⟩ hnone
        · obtain ⟨rfl, rfl⟩ := hplain.unique hplain'
          rcases hbad with hlong | hsmall
          · omega
          · rw [← unitsOf_eq hlen] at hsmall
            have hlt : unitsOf whole fraction decimals < 1 := by exact_mod_cast hsmall
            omega

/-- The access fee of 1000 units, both ways, at six decimals. -/
theorem display_and_atomic_inverse_six :
    6 ≤ 18 ∧ ∃ s, smallestUnitsToDisplayAmount 1000 6 = .ok s ∧ displayAmountToSmallestUnits s 6 = .ok (decimalInt 1000) :=
  ⟨by decide, (display_and_atomic_inverse (by decide)).1 1000 (by decide)⟩

end RouteGuard.Access
