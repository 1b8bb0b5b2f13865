import Mathlib

/-!
# Strings of UTF-16 code units

A JavaScript string is a finite sequence of 16-bit code units, surrogates included, compared unit by
unit and measured in units.

* `js` : the units of a literal, which are those of its characters (`js_eq`);
* `decimal` : the decimal digits of a number.
-/

/-- A JavaScript string; its length is the number of code units. -/
abbrev JsString := List UInt16

instance JsString.instLawfulBEq : LawfulBEq JsString := inferInstance

namespace JsString

/-- The UTF-16 encoding of a code point. -/
def encodePoint (n : Nat) : JsString :=
  if n < 0x10000 then [UInt16.ofNat n]
  else [UInt16.ofNat (0xD800 + (n - 0x10000) / 0x400), UInt16.ofNat (0xDC00 + (n - 0x10000) % 0x400)]

def encodeChar (c : Char) : JsString := encodePoint c.toNat

/-- The code units of UTF-8 bytes; `left` bytes are to come of the character that began as `code`. -/
def unitsOf : (left code : Nat) → List UInt8 → JsString
  | _, _, [] => []
  | 0, _, b :: rest =>
    let n := b.toNat
    if n < 0x80 then UInt16.ofNat n :: unitsOf 0 0 rest
    else if n < 0xE0 then unitsOf 1 (n % 32) rest
    else if n < 0xF0 then unitsOf 2 (n % 16) rest
    else unitsOf 3 (n % 8) rest
  | 1, code, b :: rest => encodePoint (code * 64 + b.toNat % 64) ++ unitsOf 0 0 rest
  | left + 2, code, b :: rest => unitsOf (left + 1) (code * 64 + b.toNat % 64) rest

/-- The code units of a literal. It is read byte by byte, since the kernel is slow on the characters of a literal. -/
def js (s : String) : JsString := unitsOf 0 0 s.toByteArray.data.toList

/-- The decimal digits of a natural number. -/
def decimal (n : Nat) : JsString := (Nat.toDigits 10 n).flatMap encodeChar

/-- The decimal form of an integer. -/
def decimalInt : Int → JsString
  | .ofNat n => decimal n
  | .negSucc n => js "-" ++ decimal (n + 1)

/-! ## The units are those of the characters -/

section Units
variable (n left code : Nat) (rest : List UInt8)

theorem toNat_ofNat_byte {n : Nat} (h : n < 256) : (UInt8.ofNat n).toNat = n := by
  rw [UInt8.toNat_ofNat', Nat.mod_eq_of_lt h]

theorem unitsOf_ascii {n : Nat} (h : n < 128) :
    unitsOf 0 0 (UInt8.ofNat n :: rest) = UInt16.ofNat n :: unitsOf 0 0 rest := by
  simp only [unitsOf, toNat_ofNat_byte (show n < 256 by omega), if_pos h]

theorem unitsOf_second : unitsOf 1 code (UInt8.ofNat (n % 64 + 128) :: rest) =
    encodePoint (code * 64 + n % 64) ++ unitsOf 0 0 rest := by
  have hbits : (n % 64 + 128) % 64 = n % 64 := by omega
  simp only [unitsOf, toNat_ofNat_byte (show n % 64 + 128 < 256 by omega), hbits]

theorem unitsOf_continued : unitsOf (left + 2) code (UInt8.ofNat (n % 64 + 128) :: rest) =
    unitsOf (left + 1) (code * 64 + n % 64) rest := by
  have hbits : (n % 64 + 128) % 64 = n % 64 := by omega
  simp only [unitsOf, toNat_ofNat_byte (show n % 64 + 128 < 256 by omega), hbits]

theorem unitsOf_first_two : unitsOf 0 0 (UInt8.ofNat (n % 32 + 192) :: rest) = unitsOf 1 (n % 32) rest := by
  have hbits : (n % 32 + 192) % 32 = n % 32 := by omega
  simp only [unitsOf, toNat_ofNat_byte (show n % 32 + 192 < 256 by omega), hbits]
  rw [if_neg (by omega), if_pos (by omega)]

theorem unitsOf_first_three : unitsOf 0 0 (UInt8.ofNat (n % 16 + 224) :: rest) = unitsOf 2 (n % 16) rest := by
  have hbits : (n % 16 + 224) % 16 = n % 16 := by omega
  simp only [unitsOf, toNat_ofNat_byte (show n % 16 + 224 < 256 by omega), hbits]
  rw [if_neg (by omega), if_neg (by omega), if_pos (by omega)]

theorem unitsOf_first_four : unitsOf 0 0 (UInt8.ofNat (n % 8 + 240) :: rest) = unitsOf 3 (n % 8) rest := by
  have hbits : (n % 8 + 240) % 8 = n % 8 := by omega
  simp only [unitsOf, toNat_ofNat_byte (show n % 8 + 240 < 256 by omega), hbits]
  rw [if_neg (by omega), if_neg (by omega), if_neg (by omega)]

end Units

theorem unitsOf_char (c : Char) (rest : List UInt8) :
    unitsOf 0 0 (String.utf8EncodeChar c ++ rest) = encodeChar c ++ unitsOf 0 0 rest := by
  have hmax : c.val.toNat < 0x110000 := by
    rcases c.valid with h | h <;> simp only [UInt32.toNat] at * <;> omega
  show _ = encodePoint c.val.toNat ++ _
  unfold String.utf8EncodeChar
  generalize c.val.toNat = v at hmax
  simp only
  split
  next h1 =>
    rw [List.singleton_append, unitsOf_ascii rest (by omega), encodePoint, if_pos (by omega), List.singleton_append]
  next h1 =>
    split
    next h2 =>
      rw [List.cons_append, List.singleton_append, unitsOf_first_two, unitsOf_second]
      congr 2
      omega
    next h2 =>
      split
      next h3 =>
        rw [List.cons_append, List.cons_append, List.singleton_append, unitsOf_first_three, unitsOf_continued,
          unitsOf_second]
        congr 2
        omega
      next h3 =>
        rw [List.cons_append, List.cons_append, List.cons_append, List.singleton_append, unitsOf_first_four,
          unitsOf_continued, unitsOf_continued, unitsOf_second]
        congr 2
        omega

theorem js_eq (s : String) : js s = s.toList.flatMap encodeChar := by
  have hunits (l : List Char) : unitsOf 0 0 (l.flatMap String.utf8EncodeChar) = l.flatMap encodeChar := by
    induction l with
    | nil => rfl
    | cons c l ih => rw [List.flatMap_cons, unitsOf_char, ih, List.flatMap_cons]
  calc js s = unitsOf 0 0 (String.ofList s.toList).toByteArray.data.toList := by rw [String.ofList_toList, js]
    _ = unitsOf 0 0 (s.toList.flatMap String.utf8EncodeChar) := by
      rw [String.toByteArray_ofList, List.utf8Encode, List.toList_data_toByteArray]
    _ = s.toList.flatMap encodeChar := hunits s.toList

end JsString
