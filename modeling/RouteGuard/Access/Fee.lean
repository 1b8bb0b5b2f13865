import RouteGuard.Lib.Decimal
import RouteGuard.Lib.Guarded

/-!
# The access fee and atomic amounts

* `displayAmountToSmallestUnits` : from a display amount to smallest units, in digits only;
* `deriveAccessFeeAtomic` : the access fee in atomic units;
* `isNonNegativeAtomicString`, `isPositiveAtomicString` : the amounts the lifecycle carries.
-/

namespace RouteGuard.Access
open JsString Guarded

/-- `/^\d+(\.\d+)?$/` : the whole part and the fraction. -/
def splitDisplayAmount (s : JsString) : Option (JsString × JsString) :=
  let whole := s.takeWhile isDigit
  match s.dropWhile isDigit with
  | [] => if whole ≠ [] then some (whole, []) else none
  | u :: fraction =>
    if whole ≠ [] ∧ u = 0x2E ∧ fraction ≠ [] ∧ fraction.all isDigit then some (whole, fraction) else none

/-- Display units to smallest units; a token has at most 18 decimals. -/
def displayAmountToSmallestUnits (displayAmount : JsString) (decimals : Nat) : Except JsString JsString := do
  require (decimals ≤ 18) (js "Invalid token decimals: " ++ decimal decimals)
  let trimmed := trim displayAmount
  require (trimmed ≠ []) (js "Display amount must not be empty.")
  require (0x65 ∉ trimmed ∧ 0x45 ∉ trimmed) (js "Scientific notation is not allowed for display amounts.")
  match splitDisplayAmount trimmed with
  | none =>
    .error (js "Invalid display amount \"" ++ displayAmount ++ js "\". Expected a non-negative decimal.")
  | some (whole, fraction) => do
    require (fraction.length ≤ decimals)
      (js "Display amount \"" ++ displayAmount ++ js "\" has more than " ++ decimal decimals ++
        js " decimal places.")
    -- dropping leading zeros does not change the number that BigInt reads
    let smallest := digitsValue (whole ++ padEnd fraction decimals 0x30)
    require (1 ≤ smallest)
      (js "Display amount \"" ++ displayAmount ++ js "\" converts to less than one smallest unit.")
    pure (decimal smallest)

def ACCESS_FEE_DISPLAY_AMOUNT : JsString := js "0.001"

def ACCESS_FEE_TOKEN_ID : JsString := js "0.0.429274"

def ACCESS_FEE_DECIMALS : Nat := 6

def deriveAccessFeeAtomic : Except JsString JsString :=
  displayAmountToSmallestUnits ACCESS_FEE_DISPLAY_AMOUNT ACCESS_FEE_DECIMALS

/-- What the module asserts when it is loaded. -/
theorem deriveAccessFeeAtomic_eq : deriveAccessFeeAtomic = .ok (js "1000") := by decide

def isNonNegativeAtomicString (value : JsString) : Bool := value.length ≤ 78 && isDecimal value

def isPositiveAtomicString (value : JsString) : Bool := value.length ≤ 78 && isPositiveDecimal value

theorem isNonNegativeAtomicString_of_positive {s : JsString} (h : isPositiveAtomicString s) :
    isNonNegativeAtomicString s := by
  simp only [isPositiveAtomicString, isNonNegativeAtomicString, Bool.and_eq_true] at *
  exact ⟨h.1, isPositiveDecimal_isDecimal h.2⟩

theorem bigInt_of_atomic {s : JsString} (h : isNonNegativeAtomicString s) :
    bigInt s = some (digitsValue s : Int) := by
  simp only [isNonNegativeAtomicString, Bool.and_eq_true] at h
  exact bigInt_of_isDecimal h.2

end RouteGuard.Access
