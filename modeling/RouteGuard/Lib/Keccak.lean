import RouteGuard.Lib.JsonText

/-!
# Words in hexadecimal and Keccak-256

* `toHex` : a number on a fixed count of lower-case hexadecimal digits, and what `radixValue` reads of it;
* `keccak256` : the digest of a list of bytes, on natural numbers, so that it can be evaluated on concrete bytes.
-/

open JsString

namespace Keccak

/-! ## Hexadecimal -/

def toHex : (digits : Nat) → Nat → JsString
  | 0, _ => []
  | k + 1, n => toHex k (n / 16) ++ [Json.hexDigit (n % 16)]

theorem length_toHex (k n : Nat) : (toHex k n).length = k := by
  induction k generalizing n with
  | zero => rfl
  | succ k ih => simp [toHex, ih]

theorem radixValue_concat (base : Nat) (s : JsString) (u : UInt16) :
    radixValue base (s ++ [u]) = (radixValue base s).bind fun v => (radixDigit u).bind fun d =>
      if d < base then some (base * v + d) else none := by
  simp [radixValue]

/-- The digits are read back, up to what they cut off. -/
theorem radixValue_toHex (k n : Nat) : radixValue 16 (toHex k n) = some (n % 16 ^ k) := by
  induction k generalizing n with
  | zero => simp [toHex, radixValue, Nat.mod_one]
  | succ k ih =>
    have hd : n % 16 < 16 := Nat.mod_lt _ (by omega)
    rw [toHex, radixValue_concat, ih, Option.bind_some, Json.radixDigit_hexDigit hd, Option.bind_some, if_pos hd]
    congr 1
    rw [Nat.pow_succ', Nat.mod_mul]
    omega

/-! ## The permutation -/

/-- A 64-bit word rotated to the left. -/
def rotl (n x : Nat) : Nat := (x <<< n) % 0x10000000000000000 ||| x >>> (64 - n)

def roundConstants : List Nat :=
  [0x0000000000000001, 0x0000000000008082, 0x800000000000808a, 0x8000000080008000, 0x000000000000808b,
   0x0000000080000001, 0x8000000080008081, 0x8000000000008009, 0x000000000000008a, 0x0000000000000088,
   0x0000000080008009, 0x000000008000000a, 0x000000008000808b, 0x800000000000008b, 0x8000000000008089,
   0x8000000000008003, 0x8000000000008002, 0x8000000000000080, 0x000000000000800a, 0x800000008000000a,
   0x8000000080008081, 0x8000000000008080, 0x0000000080000001, 0x8000000080008008]

/-- The lane `(x, y)` stands at `x + 5 * y`. -/
def lane (s : List Nat) (x y : Nat) : Nat := s.getD (x % 5 + 5 * (y % 5)) 0

def rotations : List Nat :=
  [0, 1, 62, 28, 27, 36, 44, 6, 55, 20, 3, 10, 43, 25, 39, 41, 45, 15, 21, 8, 18, 2, 61, 56, 14]

def lanes (f : Nat → Nat → Nat) : List Nat := (List.range 25).map fun i => f (i % 5) (i / 5)

def theta (s : List Nat) : List Nat :=
  let columns := (List.range 5).map fun x =>
    Nat.xor (Nat.xor (Nat.xor (lane s x 0) (lane s x 1)) (Nat.xor (lane s x 2) (lane s x 3))) (lane s x 4)
  let parity := (List.range 5).map fun x =>
    Nat.xor (columns.getD ((x + 4) % 5) 0) (rotl 1 (columns.getD ((x + 1) % 5) 0))
  lanes fun x y => Nat.xor (lane s x y) (parity.getD x 0)

/-- The rotations and the transposition of the lanes: `(x, y)` comes from `(x + 3 y, x)`. -/
def rhoPi (s : List Nat) : List Nat :=
  lanes fun x y => rotl (lane rotations (x + 3 * y) x) (lane s (x + 3 * y) x)

def chi (s : List Nat) : List Nat :=
  lanes fun x y => Nat.xor (lane s x y) (Nat.xor (lane s (x + 1) y) 0xFFFFFFFFFFFFFFFF &&& lane s (x + 2) y)

def iota (k : Nat) : List Nat → List Nat
  | [] => []
  | a :: rest => Nat.xor a k :: rest

def permute (s : List Nat) : List Nat := roundConstants.foldl (fun s k => iota k (chi (rhoPi (theta s)))) s

/-! ## The sponge -/

/-- The rate is 136 bytes; the padding is `0x01`, zeros and a last bit `0x80`. -/
def pad (bytes : List Nat) : List Nat :=
  let room := 136 - bytes.length % 136
  if room = 1 then bytes ++ [0x81] else bytes ++ 0x01 :: List.replicate (room - 2) 0 ++ [0x80]

/-- The bytes as little-endian words of 64 bits. -/
def words : List Nat → List Nat
  | a :: b :: c :: d :: e :: f :: g :: h :: rest =>
    (a ||| b <<< 8 ||| c <<< 16 ||| d <<< 24 ||| e <<< 32 ||| f <<< 40 ||| g <<< 48 ||| h <<< 56) :: words rest
  | _ => []

/-- Blocks of seventeen words; there are at most as many blocks as words. -/
def absorb : (fuel : Nat) → List Nat → List Nat → List Nat
  | 0, _, s => s
  | fuel + 1, ws, s =>
    if ws.isEmpty then s
    else absorb fuel (ws.drop 17) (permute (s.zipWith Nat.xor (ws.take 17 ++ List.replicate 8 0)))

/-- The eight bytes of a word, read as a big-endian number. -/
def swap (w : Nat) : Nat := (List.range 8).foldl (fun n i => n <<< 8 ||| (w >>> (8 * i)) % 256) 0

/-- The digest, read as a big-endian number. -/
def keccak256 (bytes : List Nat) : Nat :=
  let ws := words (pad bytes)
  ((absorb ws.length ws (List.replicate 25 0)).take 4).foldl (fun n w => n <<< 64 ||| swap w) 0

example : keccak256 [0x61, 0x62, 0x63] = 0x4e03657aea45a94fc7d47ba826c8d667c0d1e6e33a64a036ec44f58fa12d6c45 := by
  decide +kernel

end Keccak
