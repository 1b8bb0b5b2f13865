import RouteGuard.Lib.JsonObject

/-!
# Conversion to a number

`Number(value)` of a JSON value, as far as the result is an integer.

* `unsignedDecimal`, `stringToNumber` : the numeric literals of a text, exactly;
* `roundToDouble` : the nearest double, ties to the even one;
* `toNumber` : the conversion of a value.
-/

open JsString

namespace Json

/-! ## Literals -/

/-- The digits of an exponent, with or without a sign. -/
def exponentValue : JsString → Option Int
  | [] => none
  | u :: rest =>
    if u = 0x2D then (unsignedBigInt rest).map fun n => -(n : Int)
    else if u = 0x2B then (unsignedBigInt rest).map Int.ofNat
    else (unsignedBigInt (u :: rest)).map Int.ofNat

/-- Digits with at most one point among them, and an exponent. -/
def unsignedDecimal (s : JsString) : Option ℚ :=
  let whole := s.takeWhile isDigit
  let (fraction, rest) := match s.drop whole.length with
    | 0x2E :: rest => (rest.takeWhile isDigit, rest.dropWhile isDigit)
    | rest => ([], rest)
  let exponent : Option Int := match rest with
    | [] => some 0
    | e :: rest => if e = 0x65 ∨ e = 0x45 then exponentValue rest else none
  if whole = [] ∧ fraction = [] then none
  else exponent.map fun (e : Int) => (digitsValue (whole ++ fraction) : ℚ) * 10 ^ (e - fraction.length)

/-- The number a text without white space around it is written for; `none` for `NaN` and the infinities. -/
def numericLiteral : JsString → Option ℚ
  | [] => some 0
  | [u] => unsignedDecimal [u]
  | u :: v :: rest =>
    if u = 0x2D then (unsignedDecimal (v :: rest)).map fun q => -q
    else if u = 0x2B then unsignedDecimal (v :: rest)
    else
      match if u = 0x30 && rest ≠ [] then radixOf v else none with
      | some base => (radixValue base rest).map fun n => (n : ℚ)
      | none => unsignedDecimal (u :: v :: rest)

/-! ## Doubles -/

/-- The nearest integer, and of two the even one. -/
def roundHalfEven (q : ℚ) : Int :=
  let below := ⌊q⌋
  if q - below < 1 / 2 then below
  else if 1 / 2 < q - below then below + 1
  else if below % 2 = 0 then below else below + 1

/-- The nearest double; past the largest one the result is still an integer, and no safe one. -/
def roundToDouble (q : ℚ) : ℚ :=
  if q = 0 then 0
  else
    let quantum : ℚ := 2 ^ max (Int.log 2 |q| - 52) (-1074)
    roundHalfEven (q / quantum) * quantum

/-- A double that is an integer. -/
def integerOf (q : ℚ) : Option Int := if (roundToDouble q).den = 1 then some (roundToDouble q).num else none

/-- `Number(text)` where it is an integer. -/
def stringToNumber (text : JsString) : Option Int := (numericLiteral (trim text)).bind integerOf

/-! ## Values -/

/-- `Number(value)`, an array or object through its text: nothing where it throws, and no integer where the result is
none. -/
def toNumber : Json → Option (Option Int)
  | .null => some (some 0)
  | .bool b => some (some (if b then 1 else 0))
  | .num n => some (some n)
  | .str s => some (stringToNumber s)
  | v => (toText v).map stringToNumber

-- a literal that is rounded, and an array of one text
example : toNumber (.str (js " 9007199254740993 ")) = some (some 9007199254740992) ∧
    toNumber (.arr [.str (js "0x10")]) = some (some 16) := by decide +kernel

end Json
