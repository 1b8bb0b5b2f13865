import RouteGuard.Lib.Decimal

/-!
# Hedera account ids

`shard.realm.num`, three numbers without leading zeros, each a safe integer.
-/

namespace RouteGuard
open JsString

/-- The parts of a string between the separators, as `split` gives them. -/
def splitOn (sep : UInt16) : JsString → List JsString
  | [] => [[]]
  | u :: rest =>
    if u = sep then [] :: splitOn sep rest
    else
      match splitOn sep rest with
      | [] => [[u]]
      | part :: parts => (u :: part) :: parts

/-- `HEDERA_ACCOUNT_ID_RE` and safe components. -/
def isValidHederaAccountId (value : JsString) : Bool :=
  let parts := splitOn 0x2E value
  parts.length = 3 && parts.all fun part => isDecimal part && digitsValue part ≤ 9007199254740991

end RouteGuard
