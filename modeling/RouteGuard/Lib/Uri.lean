import RouteGuard.Lib.Json

/-!
# `encodeURIComponent`

Letters, digits and a few marks stand for themselves; every other code point is written as the
percent-encoded bytes of its UTF-8 encoding. A surrogate without its partner has no encoding.
-/

open JsString

namespace Uri

def isUnreserved (u : UInt16) : Bool :=
  (0x30 ≤ u && u ≤ 0x39) || (0x41 ≤ u && u ≤ 0x5A) || (0x61 ≤ u && u ≤ 0x7A) || u ∈ js "-_.!~*'()"

/-- An upper-case hexadecimal digit. -/
def upperHexDigit (n : Nat) : UInt16 := UInt16.ofNat (if n < 10 then 0x30 + n else 0x37 + n)

def percentByte (b : Nat) : JsString := [0x25, upperHexDigit (b / 16 % 16), upperHexDigit (b % 16)]

/-- The UTF-8 bytes of a code point. -/
def utf8Bytes (c : Nat) : List Nat :=
  if c < 0x80 then [c]
  else if c < 0x800 then [0xC0 + c / 0x40, 0x80 + c % 0x40]
  else if c < 0x10000 then [0xE0 + c / 0x1000, 0x80 + c / 0x40 % 0x40, 0x80 + c % 0x40]
  else [0xF0 + c / 0x40000, 0x80 + c / 0x1000 % 0x40, 0x80 + c / 0x40 % 0x40, 0x80 + c % 0x40]

def percentEncode (c : Nat) : JsString := (utf8Bytes c).flatMap percentByte

/-- The code point of a surrogate pair. -/
def pairCodePoint (u v : UInt16) : Nat := 0x10000 + (u.toNat - 0xD800) * 0x400 + (v.toNat - 0xDC00)

/-- One unit outside a surrogate pair. -/
def encodeUnit (u : UInt16) : Option JsString :=
  if isUnreserved u then some [u]
  else if Json.isHighSurrogate u || Json.isLowSurrogate u then none
  else some (percentEncode u.toNat)

/-- `encodeURIComponent(s)`; `none` where it throws. -/
def encodeURIComponent : JsString → Option JsString
  | [] => some []
  | [u] => encodeUnit u
  | u :: v :: rest =>
    if Json.isHighSurrogate u && Json.isLowSurrogate v then
      (encodeURIComponent rest).map (percentEncode (pairCodePoint u v) ++ ·)
    else do
      let head ← encodeUnit u
      let tail ← encodeURIComponent (v :: rest)
      return head ++ tail

end Uri
