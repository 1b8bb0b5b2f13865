import RouteGuard.Domain.CanonicalHash
import RouteGuard.Lib.Sha256

/-!
# The platform and its signatures

What the program takes from its platform is a parameter: the SHA-256 digest, the Unicode lower case
mapping and the signature check of the ledger SDK.
-/

namespace RouteGuard
open JsString

/-- The functions of the platform. -/
structure Platform where
  /-- The lower-case hexadecimal SHA-256 digest of a text in UTF-8. -/
  sha256Hex : JsString → JsString
  toLowerCase : JsString → JsString
  /-- `PublicKey.fromString(key).verify(message, signature)`; false where it throws. -/
  verify : (key message signatureHex : JsString) → Bool

/-- A lower-case hexadecimal digit. -/
def isLowerHex (u : UInt16) : Bool := (0x30 ≤ u && u ≤ 0x39) || (0x61 ≤ u && u ≤ 0x66)

def isHex (u : UInt16) : Bool := isLowerHex u || (0x41 ≤ u && u ≤ 0x46)

/-- The strings that `parseSignatureHex` accepts: the hexadecimal form of 64 bytes. -/
def isSignatureHex (s : JsString) : Bool := s.length = 128 && s.all isHex

def verifyCanonicalPayload (p : Platform) (value : Json) (signatureHex publicKeyHex : JsString) : Bool :=
  isSignatureHex signatureHex && p.verify publicKeyHex value.canonicalize signatureHex

/-- A platform with SHA-256 and the lower case of ASCII letters, for texts of ASCII letters, and a given
signature check. -/
def asciiPlatform (verify : (key message signatureHex : JsString) → Bool) : Platform where
  sha256Hex := Sha256.sha256Hex
  toLowerCase s := s.map fun u => if 0x41 ≤ u && u ≤ 0x5A then u + 0x20 else u
  verify := verify

/-- The digest of the platform is 64 lower-case hexadecimal digits. -/
def Platform.HexDigest (p : Platform) : Prop :=
  ∀ text, (p.sha256Hex text).length = 64 ∧ (p.sha256Hex text).all isLowerHex

/-- The two values have different digests, unless they have the same canonical text. -/
def Platform.Separates (p : Platform) (a b : Json) : Prop :=
  p.sha256Hex a.canonicalize = p.sha256Hex b.canonicalize → a.canonicalize = b.canonicalize

theorem Platform.Separates.eq_of_canonicalSha256 {p : Platform} {a b : Json} (h : p.Separates a b)
    (heq : canonicalSha256 p.sha256Hex a = canonicalSha256 p.sha256Hex b) : a.canonicalize = b.canonicalize :=
  h (List.append_cancel_left heq)

theorem isLowerHex_hexDigit {n : Nat} (h : n < 16) : isLowerHex (Json.hexDigit n) := by
  interval_cases n <;> rfl

theorem hex4_lowerHex (n : Nat) : (Json.hex4 n).length = 4 ∧ (Json.hex4 n).all isLowerHex := by
  have hmod (m : Nat) : isLowerHex (Json.hexDigit (m % 16)) := isLowerHex_hexDigit (Nat.mod_lt m (by omega))
  refine ⟨rfl, ?_⟩
  simp [Json.hex4, hmod]

theorem hexWord_lowerHex (n : Nat) : (Sha256.hexWord n).length = 8 ∧ (Sha256.hexWord n).all isLowerHex := by
  refine ⟨rfl, ?_⟩
  rw [Sha256.hexWord, List.all_append, (hex4_lowerHex _).2, (hex4_lowerHex _).2]
  rfl

theorem hexDigest_asciiPlatform (verify : (key message signatureHex : JsString) → Bool) :
    (asciiPlatform verify).HexDigest := by
  intro text
  simp [asciiPlatform, Sha256.sha256Hex, (hexWord_lowerHex _).1, hexWord_lowerHex, List.all_append]

end RouteGuard
