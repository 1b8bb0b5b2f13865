import RouteGuard.Lib.Uri

/-!
# SHA-256

The digest of a text in UTF-8, on natural numbers, so that it can be evaluated on a concrete text. The compression
function is written with the functions of `Nat` themselves, which the kernel computes without unfolding an instance.
-/

open JsString

namespace Sha256

/-! ## The text as bytes -/

/-- A surrogate without its partner is replaced by U+FFFD. -/
def utf8Unit (u : UInt16) : List Nat :=
  Uri.utf8Bytes (if Json.isHighSurrogate u || Json.isLowSurrogate u then 0xFFFD else u.toNat)

def utf8 : JsString → List Nat
  | [] => []
  | [u] => utf8Unit u
  | u :: v :: rest =>
    if Json.isHighSurrogate u && Json.isLowSurrogate v then Uri.utf8Bytes (Uri.pairCodePoint u v) ++ utf8 rest
    else utf8Unit u ++ utf8 (v :: rest)

/-- A one bit, zeros, and the length in bits on eight bytes. -/
def pad (bytes : List Nat) : List Nat :=
  let bits := 8 * bytes.length
  bytes ++ [0x80] ++ List.replicate ((119 - bytes.length % 64) % 64) 0 ++
    [bits >>> 56 % 256, bits >>> 48 % 256, bits >>> 40 % 256, bits >>> 32 % 256, bits >>> 24 % 256,
     bits >>> 16 % 256, bits >>> 8 % 256, bits % 256]

def words : List Nat → List Nat
  | a :: b :: c :: d :: rest => (a <<< 24 ||| b <<< 16 ||| c <<< 8 ||| d) :: words rest
  | _ => []

/-! ## The compression function -/

def roundConstants : List Nat :=
  [0x428a2f98, 0x71374491, 0xb5c0fbcf, 0xe9b5dba5, 0x3956c25b, 0x59f111f1, 0x923f82a4, 0xab1c5ed5,
   0xd807aa98, 0x12835b01, 0x243185be, 0x550c7dc3, 0x72be5d74, 0x80deb1fe, 0x9bdc06a7, 0xc19bf174,
   0xe49b69c1, 0xefbe4786, 0x0fc19dc6, 0x240ca1cc, 0x2de92c6f, 0x4a7484aa, 0x5cb0a9dc, 0x76f988da,
   0x983e5152, 0xa831c66d, 0xb00327c8, 0xbf597fc7, 0xc6e00bf3, 0xd5a79147, 0x06ca6351, 0x14292967,
   0x27b70a85, 0x2e1b2138, 0x4d2c6dfc, 0x53380d13, 0x650a7354, 0x766a0abb, 0x81c2c92e, 0x92722c85,
   0xa2bfe8a1, 0xa81a664b, 0xc24b8b70, 0xc76c51a3, 0xd192e819, 0xd6990624, 0xf40e3585, 0x106aa070,
   0x19a4c116, 0x1e376c08, 0x2748774c, 0x34b0bcb5, 0x391c0cb3, 0x4ed8aa4a, 0x5b9cca4f, 0x682e6ff3,
   0x748f82ee, 0x78a5636f, 0x84c87814, 0x8cc70208, 0x90befffa, 0xa4506ceb, 0xbef9a3f7, 0xc67178f2]

structure State where
  a : Nat
  b : Nat
  c : Nat
  d : Nat
  e : Nat
  f : Nat
  g : Nat
  h : Nat

def State.init : State :=
  ⟨0x6a09e667, 0xbb67ae85, 0x3c6ef372, 0xa54ff53a, 0x510e527f, 0x9b05688c, 0x1f83d9ab, 0x5be0cd19⟩

def add32 (x y : Nat) : Nat := Nat.mod (Nat.add x y) 0x100000000

/-- The three right rotations of a word, added bit by bit: the word is written twice in a row, and shifted. -/
def rotations (i j k x : Nat) : Nat :=
  let twice := Nat.mul x 0x100000001
  Nat.mod (Nat.xor (Nat.xor (Nat.shiftRight twice i) (Nat.shiftRight twice j)) (Nat.shiftRight twice k)) 0x100000000

/-- Two right rotations and a shift. -/
def rotationsShift (i j k x : Nat) : Nat :=
  let twice := Nat.mul x 0x100000001
  Nat.xor (Nat.mod (Nat.xor (Nat.shiftRight twice i) (Nat.shiftRight twice j)) 0x100000000) (Nat.shiftRight x k)

def State.round (s : State) (k w : Nat) : State :=
  let ch := Nat.xor s.g (Nat.land s.e (Nat.xor s.f s.g))
  let t1 := Nat.add (Nat.add (Nat.add s.h (rotations 6 11 25 s.e)) (Nat.add ch k)) w
  let maj := Nat.lor (Nat.land s.a s.b) (Nat.land s.c (Nat.lor s.a s.b))
  ⟨add32 t1 (Nat.add (rotations 2 13 22 s.a) maj), s.a, s.b, s.c, add32 s.d t1, s.e, s.f, s.g⟩

/-- Sixteen words in one number, the first in the lowest bits. -/
def window (ws : List Nat) : Nat := ws.foldr (fun w rest => Nat.add w (Nat.shiftLeft rest 32)) 0

def wordAt (window i : Nat) : Nat := Nat.mod (Nat.shiftRight window (Nat.mul 32 i)) 0x100000000

/-- The next word of the schedule, from the last sixteen. -/
def nextWord (window : Nat) : Nat :=
  add32 (Nat.add (wordAt window 0) (rotationsShift 7 18 3 (wordAt window 1)))
    (Nat.add (wordAt window 9) (rotationsShift 17 19 10 (wordAt window 14)))

def rounds : (constants : List Nat) → (window : Nat) → State → State
  | [], _, s => s
  | k :: ks, w, s =>
    rounds ks (Nat.add (Nat.shiftRight w 32) (Nat.shiftLeft (nextWord w) 480)) (s.round k (wordAt w 0))

def State.plus (s t : State) : State :=
  ⟨add32 s.a t.a, add32 s.b t.b, add32 s.c t.c, add32 s.d t.d, add32 s.e t.e, add32 s.f t.f, add32 s.g t.g,
   add32 s.h t.h⟩

/-- Blocks of sixteen words; there are at most as many blocks as words. -/
def blocks : (fuel : Nat) → List Nat → State → State
  | 0, _, s => s
  | fuel + 1, ws, s =>
    if ws.isEmpty then s else blocks fuel (ws.drop 16) (s.plus (rounds roundConstants (window (ws.take 16)) s))

def hexWord (n : Nat) : JsString := Json.hex4 (n / 0x10000) ++ Json.hex4 (n % 0x10000)

/-- The digest of a text in lower-case hexadecimal. -/
def sha256Hex (text : JsString) : JsString :=
  let ws := words (pad (utf8 text))
  let s := blocks ws.length ws State.init
  hexWord s.a ++ hexWord s.b ++ hexWord s.c ++ hexWord s.d ++ hexWord s.e ++ hexWord s.f ++ hexWord s.g ++
    hexWord s.h

example : sha256Hex (js "abc") = js "ba7816bf8f01cfea414140de5dae2223b00361a396177a9cb410ff61f20015ad" := by
  decide

example : sha256Hex (js "abcdbcdecdefdefgefghfghighijhijkijkljklmklmnlmnomnopnopq") =
    js "248d6a61d20638b8e5c026930c3e6039a33ce45964ff2167f6ecedd419db06c1" := by decide

end Sha256
