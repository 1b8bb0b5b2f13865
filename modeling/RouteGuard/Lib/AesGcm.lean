import Mathlib

/-!
# AES-256-GCM

* `Aes.encryptBlock` : AES with a key of 32 bytes, on a block of 16 bytes;
* `ghash` : the hash of GCM, on blocks as numbers below `2 ^ 128`;
* `encrypt`, `decrypt` : encryption with its tag, and decryption; a tag may be cut off to one of the lengths in use;
* `decrypt_encrypt` : what was encrypted is decrypted;
* `Unforged` : an input of `decrypt` that is let through only if it was encrypted.
-/

namespace AesGcm

/-! ## AES -/

namespace Aes

def sbox : List Nat :=
  [0x63, 0x7c, 0x77, 0x7b, 0xf2, 0x6b, 0x6f, 0xc5, 0x30, 0x01, 0x67, 0x2b, 0xfe, 0xd7, 0xab, 0x76,
   0xca, 0x82, 0xc9, 0x7d, 0xfa, 0x59, 0x47, 0xf0, 0xad, 0xd4, 0xa2, 0xaf, 0x9c, 0xa4, 0x72, 0xc0,
   0xb7, 0xfd, 0x93, 0x26, 0x36, 0x3f, 0xf7, 0xcc, 0x34, 0xa5, 0xe5, 0xf1, 0x71, 0xd8, 0x31, 0x15,
   0x04, 0xc7, 0x23, 0xc3, 0x18, 0x96, 0x05, 0x9a, 0x07, 0x12, 0x80, 0xe2, 0xeb, 0x27, 0xb2, 0x75,
   0x09, 0x83, 0x2c, 0x1a, 0x1b, 0x6e, 0x5a, 0xa0, 0x52, 0x3b, 0xd6, 0xb3, 0x29, 0xe3, 0x2f, 0x84,
   0x53, 0xd1, 0x00, 0xed, 0x20, 0xfc, 0xb1, 0x5b, 0x6a, 0xcb, 0xbe, 0x39, 0x4a, 0x4c, 0x58, 0xcf,
   0xd0, 0xef, 0xaa, 0xfb, 0x43, 0x4d, 0x33, 0x85, 0x45, 0xf9, 0x02, 0x7f, 0x50, 0x3c, 0x9f, 0xa8,
   0x51, 0xa3, 0x40, 0x8f, 0x92, 0x9d, 0x38, 0xf5, 0xbc, 0xb6, 0xda, 0x21, 0x10, 0xff, 0xf3, 0xd2,
   0xcd, 0x0c, 0x13, 0xec, 0x5f, 0x97, 0x44, 0x17, 0xc4, 0xa7, 0x7e, 0x3d, 0x64, 0x5d, 0x19, 0x73,
   0x60, 0x81, 0x4f, 0xdc, 0x22, 0x2a, 0x90, 0x88, 0x46, 0xee, 0xb8, 0x14, 0xde, 0x5e, 0x0b, 0xdb,
   0xe0, 0x32, 0x3a, 0x0a, 0x49, 0x06, 0x24, 0x5c, 0xc2, 0xd3, 0xac, 0x62, 0x91, 0x95, 0xe4, 0x79,
   0xe7, 0xc8, 0x37, 0x6d, 0x8d, 0xd5, 0x4e, 0xa9, 0x6c, 0x56, 0xf4, 0xea, 0x65, 0x7a, 0xae, 0x08,
   0xba, 0x78, 0x25, 0x2e, 0x1c, 0xa6, 0xb4, 0xc6, 0xe8, 0xdd, 0x74, 0x1f, 0x4b, 0xbd, 0x8b, 0x8a,
   0x70, 0x3e, 0xb5, 0x66, 0x48, 0x03, 0xf6, 0x0e, 0x61, 0x35, 0x57, 0xb9, 0x86, 0xc1, 0x1d, 0x9e,
   0xe1, 0xf8, 0x98, 0x11, 0x69, 0xd9, 0x8e, 0x94, 0x9b, 0x1e, 0x87, 0xe9, 0xce, 0x55, 0x28, 0xdf,
   0x8c, 0xa1, 0x89, 0x0d, 0xbf, 0xe6, 0x42, 0x68, 0x41, 0x99, 0x2d, 0x0f, 0xb0, 0x54, 0xbb, 0x16]

def subBytes (bytes : List Nat) : List Nat := bytes.map fun b => sbox.getD b 0

def xorBytes : List Nat → List Nat → List Nat := List.zipWith Nat.xor

/-! ### The key schedule -/

/-- The word with the number `i`, after the eight words of the window. -/
def nextWord (i : Nat) (window : List (List Nat)) : List Nat :=
  let last := window.getLastD []
  let mixed :=
    if i % 8 = 0 then xorBytes (subBytes (last.drop 1 ++ last.take 1)) [2 ^ (i / 8 - 1), 0, 0, 0]
    else if i % 8 = 4 then subBytes last
    else last
  xorBytes (window.headD []) mixed

def schedule : (count i : Nat) → List (List Nat) → List (List Nat)
  | 0, _, _ => []
  | count + 1, i, window =>
    let word := nextWord i window
    word :: schedule count (i + 1) (window.drop 1 ++ [word])

/-- The fifteen round keys, of 16 bytes each. -/
def roundKeys (key : List Nat) : List (List Nat) :=
  let window := key.toChunks 4
  (window ++ schedule 52 8 window).flatten.toChunks 16

/-! ### The rounds -/

/-- Row `r` is rotated by `r`; byte `i` stands in row `i % 4`. -/
def shiftRows (state : List Nat) : List Nat := (List.range 16).map fun i => state.getD ((i + 4 * (i % 4)) % 16) 0

/-- The double of a byte in the field of 256 elements. -/
def xtime (b : Nat) : Nat := if b < 0x80 then 2 * b else Nat.xor (2 * b) 0x11b

def mixColumn : List Nat → List Nat
  | [a, b, c, d] =>
    let all := Nat.xor (Nat.xor a b) (Nat.xor c d)
    let mix (x y : Nat) := Nat.xor (Nat.xor x all) (xtime (Nat.xor x y))
    [mix a b, mix b c, mix c d, mix d a]
  | column => column

def mixColumns (state : List Nat) : List Nat := (state.toChunks 4).flatMap mixColumn

/-- The rounds that are left; the last one mixes no columns. -/
def rounds : List (List Nat) → List Nat → List Nat
  | [], state => state
  | [key], state => xorBytes (shiftRows (subBytes state)) key
  | key :: keys, state => rounds keys (xorBytes (mixColumns (shiftRows (subBytes state))) key)

def encryptBlock (key block : List Nat) : List Nat :=
  match roundKeys key with
  | [] => block
  | first :: keys => rounds keys (xorBytes block first)

end Aes

/-! ## GCM -/

/-- Bytes as a number, the most significant first. -/
def toNumber (bytes : List Nat) : Nat := bytes.foldl (fun n b => 0x100 * n + b) 0

/-- A block of 16 bytes. -/
def toBlock (n : Nat) : List Nat := (List.range 16).map fun i => n / 0x100 ^ (15 - i) % 0x100

/-- AES on a block as a number. -/
def cipher (key : List Nat) (n : Nat) : Nat := toNumber (Aes.encryptBlock key (toBlock n))

/-- The product in the field of `2 ^ 128` elements, by the bits of `x` from the highest one on. -/
def fieldMul : (bits : Nat) → (x z v : Nat) → Nat
  | 0, _, z, _ => z
  | bits + 1, x, z, v =>
    fieldMul bits x (if x.testBit bits then Nat.xor z v else z)
      (if v % 2 = 1 then Nat.xor (v / 2) (0xe1 * 2 ^ 120) else v / 2)

def ghash (h : Nat) (blocks : List Nat) : Nat := blocks.foldl (fun y x => fieldMul 128 (Nat.xor y x) 0 h) 0

/-- The blocks of the bytes, the last one filled up with zeros. -/
def blocksOf (bytes : List Nat) : List Nat :=
  (bytes.toChunks 16).map fun chunk => toNumber (chunk ++ List.replicate (16 - chunk.length) 0)

/-- The counter block before the first one. -/
def firstCounter (key iv : List Nat) : Nat :=
  if iv.length = 12 then toNumber (iv ++ [0, 0, 0, 1])
  else ghash (cipher key 0) (blocksOf iv ++ [8 * iv.length])

/-- The last 32 bits are counted up. -/
def increment (counter : Nat) : Nat := counter / 2 ^ 32 * 2 ^ 32 + (counter + 1) % 2 ^ 32

/-- The bytes the text is combined with, in blocks. -/
def keystream (key : List Nat) : (blocks counter : Nat) → List Nat
  | 0, _ => []
  | blocks + 1, counter => toBlock (cipher key counter) ++ keystream key blocks (increment counter)

def toNats (bytes : List UInt8) : List Nat := bytes.map UInt8.toNat

def ofNats (bytes : List Nat) : List UInt8 := bytes.map UInt8.ofNat

/-- The text combined with the keystream, which encrypts and decrypts. -/
def crypt (key iv text : List UInt8) : List UInt8 :=
  text.zipWith (· ^^^ ·) (ofNats (keystream (toNats key) ((text.length + 15) / 16)
    (increment (firstCounter (toNats key) (toNats iv)))))

def fullTag (key iv aad ciphertext : List UInt8) : List UInt8 :=
  let hash := ghash (cipher (toNats key) 0) (blocksOf (toNats aad) ++ blocksOf (toNats ciphertext) ++
    [8 * aad.length * 2 ^ 64 + 8 * ciphertext.length])
  ofNats (toBlock (Nat.xor (cipher (toNats key) (firstCounter (toNats key) (toNats iv))) hash))

/-- The ciphertext and its tag. -/
def encrypt (key iv aad plaintext : List UInt8) : List UInt8 × List UInt8 :=
  (crypt key iv plaintext, fullTag key iv aad (crypt key iv plaintext))

/-- The plaintext, where the key is one and the tag is right as far as it goes. -/
def decrypt (key iv aad tag ciphertext : List UInt8) : Option (List UInt8) :=
  if key.length = 32 ∧ iv ≠ [] ∧ tag.length ∈ [4, 8, 12, 13, 14, 15, 16] ∧
      tag = (fullTag key iv aad ciphertext).take tag.length then
    some (crypt key iv ciphertext)
  else none

-- the empty key, and one block of zeros
example : encrypt (List.replicate 32 0) (List.replicate 12 0) [] (List.replicate 16 0) =
    ([0xce, 0xa7, 0x40, 0x3d, 0x4d, 0x60, 0x6b, 0x6e, 0x07, 0x4e, 0xc5, 0xd3, 0xba, 0xf3, 0x9d, 0x18],
     [0xd0, 0xd1, 0xc8, 0xa7, 0x99, 0x99, 0x6b, 0xf0, 0x26, 0x5b, 0x98, 0xb5, 0xd4, 0x8a, 0xb9, 0x19]) := by
  decide +kernel

/-! ## What was encrypted is decrypted -/

theorem ofNats_toNats (bytes : List UInt8) : ofNats (toNats bytes) = bytes := by
  rw [ofNats, toNats, List.map_map]
  exact List.map_id'' (fun b => UInt8.ofNat_toNat) bytes

theorem toNats_ofNats {bytes : List Nat} (h : ∀ b ∈ bytes, b < 256) : toNats (ofNats bytes) = bytes := by
  rw [toNats, ofNats, List.map_map]
  exact (List.map_congr_left fun b hb => UInt8.toNat_ofNat_of_lt' (h b hb)).trans (List.map_id bytes)

theorem toNats_lt {bytes : List UInt8} : ∀ b ∈ toNats bytes, b < 256 := by
  intro b hb
  obtain ⟨u, -, rfl⟩ := List.mem_map.mp hb
  exact u.toNat_lt

theorem length_toBlock (n : Nat) : (toBlock n).length = 16 := by simp [toBlock]

theorem length_keystream (key : List Nat) (blocks counter : Nat) :
    (keystream key blocks counter).length = 16 * blocks := by
  induction blocks generalizing counter with
  | zero => rfl
  | succ blocks ih =>
    rw [keystream, List.length_append, length_toBlock, ih]
    omega

/-- Combined twice with bytes that are enough, a text is itself again. -/
theorem zipWith_xor_xor : ∀ {text stream : List UInt8}, text.length ≤ stream.length →
    (text.zipWith (· ^^^ ·) stream).zipWith (· ^^^ ·) stream = text
  | [], _, _ => rfl
  | b :: text, k :: stream, h => by
    rw [List.zipWith_cons_cons, List.zipWith_cons_cons, zipWith_xor_xor (Nat.le_of_succ_le_succ h), UInt8.xor_assoc,
      UInt8.xor_self, UInt8.xor_zero]

section Cipher
variable {key iv aad tag text plaintext : List UInt8}

theorem length_stream (key iv : List UInt8) (length : Nat) :
    length ≤ (ofNats (keystream (toNats key) ((length + 15) / 16)
      (increment (firstCounter (toNats key) (toNats iv))))).length := by
  rw [ofNats, List.length_map, length_keystream]
  omega

theorem length_crypt (key iv text : List UInt8) : (crypt key iv text).length = text.length := by
  rw [crypt, List.length_zipWith, Nat.min_eq_left (length_stream key iv _)]

theorem crypt_crypt (key iv text : List UInt8) : crypt key iv (crypt key iv text) = text := by
  conv_lhs => rw [crypt, length_crypt]
  rw [crypt, zipWith_xor_xor (length_stream key iv _)]

theorem length_fullTag (key iv aad ciphertext : List UInt8) : (fullTag key iv aad ciphertext).length = 16 := by
  simp only [fullTag, ofNats, List.length_map, length_toBlock]

/-- A plaintext comes from its own ciphertext only. -/
theorem crypt_of_decrypt (h : decrypt key iv aad tag text = some plaintext) : text = crypt key iv plaintext := by
  rw [decrypt, Option.ite_none_right_eq_some, Option.some.injEq] at h
  rw [← h.2, crypt_crypt]

theorem decrypt_encrypt (hkey : key.length = 32) (hiv : iv ≠ []) (aad plaintext : List UInt8) :
    decrypt key iv aad (encrypt key iv aad plaintext).2 (encrypt key iv aad plaintext).1 = some plaintext := by
  have hlength := length_fullTag key iv aad (crypt key iv plaintext)
  have htag : fullTag key iv aad (crypt key iv plaintext) = (fullTag key iv aad (crypt key iv plaintext)).take 16 := by
    rw [List.take_of_length_le hlength.le]
  rw [encrypt, decrypt, if_pos, crypt_crypt]
  dsimp only
  rw [hlength]
  exact ⟨hkey, hiv, by decide, htag⟩

end Cipher

/-! ## Authenticity -/

/-- A call of `encrypt`. -/
structure Encryption where
  key : List UInt8
  iv : List UInt8
  aad : List UInt8
  plaintext : List UInt8
  deriving DecidableEq, Repr

/-- Under a key of the log, the input is let through only if the log has it. -/
def Unforged (log : List Encryption) (key iv aad tag ciphertext : List UInt8) : Prop :=
  key ∈ log.map Encryption.key → ∀ plaintext, decrypt key iv aad tag ciphertext = some plaintext →
    ⟨key, iv, aad, plaintext⟩ ∈ log

/-- What was encrypted is not forged. -/
theorem unforged_encrypt {log : List Encryption} {e : Encryption} (he : e ∈ log) (tag : List UInt8) :
    Unforged log e.key e.iv e.aad tag (encrypt e.key e.iv e.aad e.plaintext).1 := by
  intro _ plaintext h
  rw [decrypt, Option.ite_none_right_eq_some, encrypt, crypt_crypt, Option.some.injEq] at h
  rw [← h.2]
  exact he

end AesGcm
