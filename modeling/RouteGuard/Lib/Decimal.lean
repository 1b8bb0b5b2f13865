import RouteGuard.Lib.JsString

/-!
# Decimal strings

* `digitsValue` : the number a string of digits denotes;
* `isDecimal` : a natural number without leading zeros;
* `bigInt` : what `BigInt` reads from a string;
* `padStart`, `padEnd` : digits on either side.

The main fact is that `decimal` and `digitsValue` are inverse to each other.
-/

namespace JsString

/-- `\d`. -/
def isDigit (u : UInt16) : Bool := 0x30 ≤ u && u ≤ 0x39

/-- The digit of a number below ten. -/
def digit (d : Nat) : UInt16 := UInt16.ofNat (0x30 + d)

def digitsValue (s : JsString) : Nat := s.foldl (fun n u => 10 * n + (u.toNat - 0x30)) 0

/-- `/^(0|[1-9]\d*)$/`. -/
def isDecimal : JsString → Bool
  | [] => false
  | u :: rest => isDigit u && rest.all isDigit && (u ≠ 0x30 || rest.isEmpty)

/-- `/^[1-9]\d*$/`. -/
def isPositiveDecimal : JsString → Bool
  | [] => false
  | u :: rest => isDigit u && rest.all isDigit && u ≠ 0x30

def padStart (s : JsString) (n : Nat) (u : UInt16) : JsString := List.replicate (n - s.length) u ++ s

def padEnd (s : JsString) (n : Nat) (u : UInt16) : JsString := s ++ List.replicate (n - s.length) u

/-! ## `BigInt` -/

/-- White space and line terminators. -/
def isWhitespace (u : UInt16) : Bool :=
  (0x09 ≤ u && u ≤ 0x0D) || u = 0x20 || u = 0xA0 || u = 0x1680 || (0x2000 ≤ u && u ≤ 0x200A) ||
    u = 0x2028 || u = 0x2029 || u = 0x202F || u = 0x205F || u = 0x3000 || u = 0xFEFF

def trim (s : JsString) : JsString := (s.dropWhile isWhitespace).rdropWhile isWhitespace

/-- The value of a digit in bases up to sixteen. -/
def radixDigit (u : UInt16) : Option Nat :=
  if isDigit u then some (u.toNat - 0x30)
  else if 0x61 ≤ u && u ≤ 0x66 then some (u.toNat - 0x57)
  else if 0x41 ≤ u && u ≤ 0x46 then some (u.toNat - 0x37)
  else none

def radixValue (base : Nat) (s : JsString) : Option Nat :=
  s.foldl (fun n u => n.bind fun v => (radixDigit u).bind fun d =>
    if d < base then some (base * v + d) else none) (some 0)

/-- The base a prefix announces. -/
def radixOf (u : UInt16) : Option Nat :=
  if u = 0x78 || u = 0x58 then some 16
  else if u = 0x6F || u = 0x4F then some 8
  else if u = 0x62 || u = 0x42 then some 2
  else none

def unsignedBigInt (s : JsString) : Option Nat :=
  if s ≠ [] && s.all isDigit then some (digitsValue s) else none

/-- A literal without the white space around it. -/
def bigIntLiteral : JsString → Option Int
  | [] => some 0
  | [u] => (unsignedBigInt [u]).map Int.ofNat
  | u :: v :: rest =>
    if u = 0x2D then (unsignedBigInt (v :: rest)).map fun n => -(n : Int)
    else if u = 0x2B then (unsignedBigInt (v :: rest)).map Int.ofNat
    else
      match if u = 0x30 && rest ≠ [] then radixOf v else none with
      | some base => (radixValue base rest).map Int.ofNat
      | none => (unsignedBigInt (u :: v :: rest)).map Int.ofNat

/-- `BigInt(s)`; `none` where it throws. -/
def bigInt (s : JsString) : Option Int := bigIntLiteral (trim s)

/-! ## Digits -/

theorem isDigit_iff {u : UInt16} : isDigit u ↔ 0x30 ≤ u.toNat ∧ u.toNat ≤ 0x39 := by
  simp only [isDigit, Bool.and_eq_true, decide_eq_true_eq, UInt16.le_iff_toNat_le]
  rfl

theorem digit_toNat {d : Nat} (h : d < 10) : (digit d).toNat = 0x30 + d := by
  rw [digit, UInt16.toNat_ofNat']
  omega

theorem isDigit_digit {d : Nat} (h : d < 10) : isDigit (digit d) := by
  rw [isDigit_iff, digit_toNat h]
  omega

theorem digit_of_isDigit {u : UInt16} (h : isDigit u) : digit (u.toNat - 0x30) = u := by
  rw [isDigit_iff] at h
  apply UInt16.toNat_inj.mp
  rw [digit_toNat (by omega)]
  omega

theorem digitsValue_concat (s : JsString) (u : UInt16) :
    digitsValue (s ++ [u]) = 10 * digitsValue s + (u.toNat - 0x30) := by
  simp [digitsValue, List.foldl_append]

theorem encodeChar_digitChar {d : Nat} (h : d < 10) : encodeChar d.digitChar = [digit d] := by
  interval_cases d <;> rfl

/-- The last digit of a number, after the digits of the rest. -/
theorem decimal_eq (n : Nat) :
    decimal n = (if n < 10 then [] else decimal (n / 10)) ++ [digit (n % 10)] := by
  unfold decimal
  split
  · next h =>
    rw [Nat.toDigits_of_lt_base h, Nat.mod_eq_of_lt h]
    simpa using encodeChar_digitChar h
  · next h =>
    rw [Nat.toDigits_of_base_le (by omega) (by omega), List.flatMap_append]
    simpa using encodeChar_digitChar (Nat.mod_lt n (by omega))

theorem decimal_ne_nil (n : Nat) : decimal n ≠ [] := by
  rw [decimal_eq]
  simp

@[simp] theorem digitsValue_decimal (n : Nat) : digitsValue (decimal n) = n := by
  induction n using Nat.strong_induction_on with
  | _ n ih =>
    rw [decimal_eq, digitsValue_concat, digit_toNat (by omega)]
    split
    · simp only [digitsValue, List.foldl_nil]
      omega
    · rw [ih (n / 10) (by omega)]
      omega

theorem all_isDigit_decimal (n : Nat) : (decimal n).all isDigit := by
  induction n using Nat.strong_induction_on with
  | _ n ih =>
    rw [decimal_eq, List.all_append]
    have hd : isDigit (digit (n % 10)) := isDigit_digit (by omega)
    split
    · simp [hd]
    · simp [hd, ih (n / 10) (by omega)]

theorem decimalInt_of_nonneg {n : Int} (h : 0 ≤ n) : decimalInt n = decimal n.toNat := by
  obtain ⟨k, rfl⟩ := Int.eq_ofNat_of_zero_le h
  rfl

theorem not_mem_decimalInt {n : Int} {u : UInt16} (hu : isDigit u = false) (hminus : u ≠ 0x2D) : u ∉ decimalInt n := by
  have hdigits (k : Nat) : u ∉ decimal k := by
    intro hmem
    have := List.all_eq_true.mp (all_isDigit_decimal k) u hmem
    rw [hu] at this
    cases this
  cases n with
  | ofNat k => exact hdigits k
  | negSucc k => exact fun hmem => (List.mem_append.mp hmem).elim (fun h => hminus (List.mem_singleton.mp h)) (hdigits _)

theorem decimal_inj {m n : Nat} (h : decimal m = decimal n) : m = n := by
  have hvalue := congrArg digitsValue h
  rwa [digitsValue_decimal, digitsValue_decimal] at hvalue

/-- A minus sign is no digit. -/
theorem decimal_ne_minus {m n : Nat} : decimal m ≠ js "-" ++ decimal n := by
  intro h
  have hminus : (0x2D : UInt16) ∈ decimal m := by
    rw [h]
    exact List.mem_append_left _ (by decide)
  have hdigit := List.all_eq_true.mp (all_isDigit_decimal m) _ hminus
  revert hdigit
  decide

theorem decimalInt_inj {m n : Int} (h : decimalInt m = decimalInt n) : m = n := by
  cases m with
  | ofNat j =>
    cases n with
    | ofNat k => rw [decimal_inj h]
    | negSucc k => exact absurd h decimal_ne_minus
  | negSucc j =>
    cases n with
    | ofNat k => exact absurd h.symm decimal_ne_minus
    | negSucc k => rw [Nat.succ.inj (decimal_inj (List.append_cancel_left h))]

/-- The number of digits, from the size. -/
theorem length_decimal_le_iff {n k : Nat} (hk : 0 < k) : (decimal n).length ≤ k ↔ n < 10 ^ k := by
  induction k, hk using Nat.le_induction generalizing n with
  | base =>
    rw [decimal_eq]
    by_cases h : n < 10
    · simp [h]
    · have := List.length_pos_of_ne_nil (decimal_ne_nil (n / 10))
      simp only [h, if_false, List.length_append, List.length_singleton]
      omega
  | succ k hk ih =>
    rw [decimal_eq, Nat.pow_succ]
    have hpow : 0 < 10 ^ k := by positivity
    by_cases h : n < 10
    · simp only [h, if_true, List.nil_append, List.length_singleton]
      omega
    · have := ih (n := n / 10)
      simp only [h, if_false, List.length_append, List.length_singleton]
      omega

theorem length_decimal {n k : Nat} (hk : 0 < k) (hl : 10 ^ k ≤ n) (hu : n < 10 ^ (k + 1)) :
    (decimal n).length = k + 1 := by
  have h1 := (length_decimal_le_iff (n := n) (Nat.succ_pos k)).mpr hu
  have h2 := length_decimal_le_iff (n := n) hk
  omega

/-! ## Padding -/

theorem digitsValue_append (s t : JsString) :
    digitsValue (s ++ t) = digitsValue s * 10 ^ t.length + digitsValue t := by
  induction t using List.reverseRecOn with
  | nil => simp [digitsValue]
  | append_singleton t u ih =>
    rw [← List.append_assoc, digitsValue_concat, digitsValue_concat, ih, List.length_append,
      List.length_singleton, Nat.pow_succ]
    ring

theorem digitsValue_zeros (n : Nat) : digitsValue (List.replicate n 0x30) = 0 := by
  induction n with
  | zero => rfl
  | succ n ih =>
    rw [List.replicate_succ', digitsValue_concat, ih]
    rfl

@[simp] theorem digitsValue_padStart (s : JsString) (n : Nat) :
    digitsValue (padStart s n 0x30) = digitsValue s := by
  simp [padStart, digitsValue_append, digitsValue_zeros]

theorem length_padStart {s : JsString} {n : Nat} (u : UInt16) (h : s.length ≤ n) :
    (padStart s n u).length = n := by
  simp only [padStart, List.length_append, List.length_replicate]
  omega

theorem all_isDigit_padStart {s : JsString} (n : Nat) (h : s.all isDigit) :
    (padStart s n 0x30).all isDigit := by
  simp only [padStart, List.all_append, h, Bool.and_true]
  exact List.all_eq_true.mpr fun u hu => (List.eq_of_mem_replicate hu) ▸ by decide

/-! ## `BigInt` of a decimal string -/

theorem isDecimal_decimal (n : Nat) : isDecimal (decimal n) := by
  induction n using Nat.strong_induction_on with
  | _ n ih =>
    rw [decimal_eq]
    have hlast : isDigit (digit (n % 10)) := isDigit_digit (Nat.mod_lt _ (by omega))
    split
    · simp [isDecimal, hlast]
    · next h =>
      have hlead := ih (n / 10) (by omega)
      have hvalue := digitsValue_decimal (n / 10)
      cases hd : decimal (n / 10) with
      | nil => exact absurd hd (decimal_ne_nil _)
      | cons u rest =>
        rw [hd] at hlead hvalue
        simp only [isDecimal, Bool.and_eq_true, Bool.or_eq_true, decide_eq_true_eq, List.isEmpty_iff] at hlead
        -- a number of at least ten does not lead with a zero
        have hne : u ≠ 0x30 := by
          rcases hlead.2 with hne | rfl
          · exact hne
          · rintro rfl
            have hzero : digitsValue [0x30] = 0 := rfl
            omega
        simp [isDecimal, hlead.1.1, hlead.1.2, hlast, hne]

theorem isPositiveDecimal_isDecimal {s : JsString} (h : isPositiveDecimal s) : isDecimal s := by
  cases s with
  | nil => cases h
  | cons u rest =>
    simp only [isPositiveDecimal, isDecimal, Bool.and_eq_true] at *
    exact ⟨h.1, by simp [h.2]⟩

theorem isDecimal_all {s : JsString} (h : isDecimal s) : s ≠ [] ∧ s.all isDigit := by
  cases s with
  | nil => cases h
  | cons u rest =>
    simp only [isDecimal, Bool.and_eq_true] at h
    exact ⟨List.cons_ne_nil _ _, by simp [h.1.1, h.1.2]⟩

theorem dropWhile_of_head {α : Type} {p : α → Bool} {l : List α} (h : ∀ a ∈ l.head?, p a = false) :
    l.dropWhile p = l := by
  cases l with
  | nil => rfl
  | cons a l => simp [List.dropWhile, h a rfl]

/-- White space is cut once. -/
theorem trim_trim (s : JsString) : trim (trim s) = trim s := by
  unfold trim
  set p := isWhitespace
  have hhead : ∀ a ∈ ((s.dropWhile p).rdropWhile p).head?, p a = false := by
    intro a ha
    have hne : s.dropWhile p ≠ [] := by
      intro hnil
      rw [hnil] at ha
      cases ha
    obtain ⟨t, ht⟩ := List.rdropWhile_prefix p (l := s.dropWhile p)
    have hfirst : (s.dropWhile p).head? = some a := by
      rw [← ht, List.head?_append, ha]
      rfl
    have := List.head_dropWhile_not p hne
    rw [List.head?_eq_some_head hne, Option.some.injEq] at hfirst
    rwa [hfirst] at this
  rw [dropWhile_of_head hhead, List.rdropWhile_idempotent]

theorem not_isWhitespace_of_isDigit {u : UInt16} (h : isDigit u) : isWhitespace u = false := by
  rw [isDigit_iff] at h
  have hd := digit_of_isDigit (isDigit_iff.mpr h)
  have hlt : u.toNat - 0x30 < 10 := by omega
  rw [← hd]
  interval_cases (u.toNat - 0x30) <;> rfl

/-- Without white space there is nothing to cut. -/
theorem trim_of_not_whitespace {s : JsString} (h : ∀ u ∈ s, isWhitespace u = false) : trim s = s := by
  rw [trim, dropWhile_of_head fun u hu => h u (List.mem_of_mem_head? hu), List.rdropWhile_eq_self_iff]
  intro hne
  simp [h _ (List.getLast_mem hne)]

theorem trim_of_all_isDigit {s : JsString} (h : s.all isDigit) : trim s = s :=
  trim_of_not_whitespace fun u hu => not_isWhitespace_of_isDigit (List.all_eq_true.mp h u hu)

theorem radixOf_of_isDigit {u : UInt16} (h : isDigit u) : radixOf u = none := by
  rw [isDigit_iff] at h
  have hd := digit_of_isDigit (isDigit_iff.mpr h)
  have hlt : u.toNat - 0x30 < 10 := by omega
  rw [← hd]
  interval_cases (u.toNat - 0x30) <;> rfl

theorem bigInt_of_isDecimal {s : JsString} (h : isDecimal s) : bigInt s = some (digitsValue s : Int) := by
  obtain ⟨hne, hall⟩ := isDecimal_all h
  rw [bigInt, trim_of_all_isDigit hall]
  have hu : unsignedBigInt s = some (digitsValue s) := by simp [unsignedBigInt, hne, hall]
  match s, hne with
  | [u], _ => simp [bigIntLiteral, hu]
  | u :: v :: rest, _ =>
    have hall' := List.all_eq_true.mp hall
    have hdu := isDigit_iff.mp (hall' u (by simp))
    have h1 : u ≠ 0x2D := by
      rintro rfl
      simp at hdu
    have h2 : u ≠ 0x2B := by
      rintro rfl
      simp at hdu
    simp [bigIntLiteral, h1, h2, hu, radixOf_of_isDigit (hall' v (by simp))]

theorem digitsValue_pos {s : JsString} (h : isPositiveDecimal s) : 0 < digitsValue s := by
  cases s with
  | nil => cases h
  | cons u rest =>
    simp only [isPositiveDecimal, Bool.and_eq_true, decide_eq_true_eq] at h
    have hu := isDigit_iff.mp h.1.1
    have hne : u.toNat ≠ 0x30 := fun he => h.2 (UInt16.toNat_inj.mp he)
    have hval : digitsValue [u] = u.toNat - 0x30 := by simp [digitsValue]
    have happ := digitsValue_append [u] rest
    have hpow : 0 < 10 ^ rest.length := by positivity
    rw [List.singleton_append, hval] at happ
    rw [happ]
    have : 0 < (u.toNat - 0x30) * 10 ^ rest.length := Nat.mul_pos (by omega) hpow
    omega

end JsString
