import RouteGuard.Lib.JsonText
import RouteGuard.Lib.Sha256

/-!
# Text as bytes and back

* `decodeUtf8` : the strict decoder, which rejects everything that no encoder writes;
* `WellFormed` : strings whose surrogates come in pairs; these are decoded as they were encoded (`decodeUtf8_utf8`);
* `wellFormed_print` : the text of a JSON value is one of them, whatever its strings are;
* `toBase64`, `fromBase64` : base64 with padding, and the lenient reader.
-/

open JsString Json

namespace TextCodec

/-! ## UTF-8 -/

def isContinuation (b : Nat) : Bool := 0x80 ≤ b && b < 0xC0

/-- The code point of a leading byte and its continuation bytes, each of which holds six bits. -/
def codePoint (lead : Nat) (continuation : List Nat) : Nat :=
  continuation.foldl (fun c b => c * 0x40 + (b - 0x80)) lead

/-- The UTF-16 code units of a code point. -/
def utf16Units (c : Nat) : JsString :=
  if c < 0x10000 then [UInt16.ofNat c]
  else [UInt16.ofNat (0xD800 + (c - 0x10000) / 0x400), UInt16.ofNat (0xDC00 + (c - 0x10000) % 0x400)]

/-- One sequence of `n` continuation bytes: the code point has to need that many, and to be no surrogate. -/
def sequence (lead n least : Nat) (rest : List Nat) : Option (Nat × List Nat) :=
  let continuation := rest.take n
  let c := codePoint lead continuation
  if continuation.length = n && continuation.all isContinuation && least ≤ c && c < 0x110000 &&
      !(0xD800 ≤ c && c < 0xE000) then
    some (c, rest.drop n)
  else none

/-- The first code point of the bytes. -/
def firstCodePoint : List Nat → Option (Nat × List Nat)
  | [] => none
  | b :: rest =>
    if b < 0x80 then some (b, rest)
    else if 0xC0 ≤ b && b < 0xE0 then sequence (b - 0xC0) 1 0x80 rest
    else if 0xE0 ≤ b && b < 0xF0 then sequence (b - 0xE0) 2 0x800 rest
    else if 0xF0 ≤ b && b < 0xF8 then sequence (b - 0xF0) 3 0x10000 rest
    else none

/-- The code points; there are at most as many as bytes. -/
def decodeCodePoints : (fuel : Nat) → List Nat → Option JsString
  | _, [] => some []
  | 0, _ :: _ => none
  | fuel + 1, b :: rest => do
    let (c, rest) ← firstCodePoint (b :: rest)
    let units ← decodeCodePoints fuel rest
    some (utf16Units c ++ units)

/-- A byte order mark at the start is dropped. -/
def dropByteOrderMark : List Nat → List Nat
  | 0xEF :: 0xBB :: 0xBF :: rest => rest
  | bytes => bytes

/-- `new TextDecoder("utf-8", fatal)`; `none` where it throws. -/
def decodeUtf8 (bytes : List Nat) : Option JsString :=
  let bytes := dropByteOrderMark bytes
  decodeCodePoints bytes.length bytes

/-! ## Strings whose surrogates come in pairs -/

def WellFormed : JsString → Prop
  | [] => True
  | [u] => isHighSurrogate u = false ∧ isLowSurrogate u = false
  | u :: v :: rest =>
    (isHighSurrogate u = true ∧ isLowSurrogate v = true ∧ WellFormed rest) ∨
      (isHighSurrogate u = false ∧ isLowSurrogate u = false ∧ WellFormed (v :: rest))

theorem WellFormed.cons {u : UInt16} {s : JsString} (hh : isHighSurrogate u = false) (hl : isLowSurrogate u = false)
    (hs : WellFormed s) : WellFormed (u :: s) := by
  cases s with
  | nil => exact ⟨hh, hl⟩
  | cons v rest => exact .inr ⟨hh, hl, hs⟩

theorem WellFormed.pair {u v : UInt16} {s : JsString} (hu : isHighSurrogate u = true) (hv : isLowSurrogate v = true)
    (hs : WellFormed s) : WellFormed (u :: v :: s) := .inl ⟨hu, hv, hs⟩

/-- Well-formed strings, unit by unit or pair by pair. -/
theorem WellFormed.rec_on {P : JsString → Prop} (hnil : P [])
    (hcons : ∀ u s, isHighSurrogate u = false → isLowSurrogate u = false → WellFormed s → P s → P (u :: s))
    (hpair : ∀ u v s, isHighSurrogate u = true → isLowSurrogate v = true → WellFormed s → P s → P (u :: v :: s)) :
    ∀ {s : JsString}, WellFormed s → P s
  | [], _ => hnil
  | [u], h => hcons u [] h.1 h.2 trivial hnil
  | u :: v :: rest, h => by
    rcases h with ⟨hu, hv, hs⟩ | ⟨hh, hl, hs⟩
    · exact hpair u v rest hu hv hs (WellFormed.rec_on hnil hcons hpair hs)
    · exact hcons u (v :: rest) hh hl hs (WellFormed.rec_on hnil hcons hpair hs)

theorem WellFormed.append {s t : JsString} (hs : WellFormed s) (ht : WellFormed t) : WellFormed (s ++ t) := by
  refine hs.rec_on (P := fun s => WellFormed (s ++ t)) ht ?_ ?_
  · intro u s hh hl _ ih
    exact ih.cons hh hl
  · intro u v s hu hv _ ih
    exact ih.pair hu hv

theorem surrogate_iff {u : UInt16} : (isHighSurrogate u = true ↔ 0xD800 ≤ u.toNat ∧ u.toNat < 0xDC00) ∧
    (isLowSurrogate u = true ↔ 0xDC00 ≤ u.toNat ∧ u.toNat < 0xE000) := by
  simp only [isHighSurrogate, isLowSurrogate, Bool.and_eq_true, decide_eq_true_eq, UInt16.le_iff_toNat_le,
    UInt16.lt_iff_toNat_lt, UInt16.reduceToNat, and_self]

/-- Texts without surrogates. -/
theorem wellFormed_of_lt {s : JsString} (h : ∀ u ∈ s, u.toNat < 0xD800) : WellFormed s := by
  induction s with
  | nil => trivial
  | cons u s ih =>
    have hu := h u (by simp)
    refine WellFormed.cons ?_ ?_ (ih fun v hv => h v (by simp [hv]))
    · rw [Bool.eq_false_iff, Ne, surrogate_iff.1]
      omega
    · rw [Bool.eq_false_iff, Ne, surrogate_iff.2]
      omega

theorem wellFormed_ascii {s : JsString} (h : s.all (· < 0x80) = true) : WellFormed s := by
  refine wellFormed_of_lt fun u hu => ?_
  have hlt : u < 0x80 := by simpa using List.all_eq_true.mp h u hu
  simp only [UInt16.lt_iff_toNat_lt, UInt16.reduceToNat] at hlt
  omega

/-! ### The encoder and the decoder -/

theorem utf8Bytes_ne_nil (c : Nat) : Uri.utf8Bytes c ≠ [] := by
  unfold Uri.utf8Bytes
  split_ifs <;> simp

/-- A code point that is no surrogate is read back, whatever follows. -/
theorem firstCodePoint_utf8Bytes {c : Nat} (hmax : c < 0x110000) (hs : ¬ (0xD800 ≤ c ∧ c < 0xE000)) (rest : List Nat) :
    firstCodePoint (Uri.utf8Bytes c ++ rest) = some (c, rest) := by
  unfold Uri.utf8Bytes
  split_ifs with h1 h2 h3
  · simp [firstCodePoint, h1]
  · have hb : ¬ 0xC0 + c / 0x40 < 0x80 := by omega
    have hcp : (0xC0 + c / 0x40 - 0xC0) * 0x40 + (0x80 + c % 0x40 - 0x80) = c := by omega
    simp only [List.cons_append, List.nil_append, firstCodePoint, hb, if_false, sequence, codePoint, List.take_succ_cons,
      List.take_zero, List.drop_succ_cons, List.drop_zero, List.foldl_cons, List.foldl_nil, hcp]
    rw [if_pos (by simp; omega), if_pos]
    simp [isContinuation]
    omega
  · have hb : ¬ 0xE0 + c / 0x1000 < 0x80 := by omega
    have hcp : ((0xE0 + c / 0x1000 - 0xE0) * 0x40 + (0x80 + c / 0x40 % 0x40 - 0x80)) * 0x40 + (0x80 + c % 0x40 - 0x80) = c := by
      omega
    simp only [List.cons_append, List.nil_append, firstCodePoint, hb, if_false, sequence, codePoint, List.take_succ_cons,
      List.take_zero, List.drop_succ_cons, List.drop_zero, List.foldl_cons, List.foldl_nil, hcp]
    rw [if_neg (by simp), if_pos (by simp; omega), if_pos]
    simp [isContinuation]
    omega
  · have hb : ¬ 0xF0 + c / 0x40000 < 0x80 := by omega
    have hcp : (((0xF0 + c / 0x40000 - 0xF0) * 0x40 + (0x80 + c / 0x1000 % 0x40 - 0x80)) * 0x40 +
        (0x80 + c / 0x40 % 0x40 - 0x80)) * 0x40 + (0x80 + c % 0x40 - 0x80) = c := by omega
    simp only [List.cons_append, List.nil_append, firstCodePoint, hb, if_false, sequence, codePoint, List.take_succ_cons,
      List.take_zero, List.drop_succ_cons, List.drop_zero, List.foldl_cons, List.foldl_nil, hcp]
    rw [if_neg (by simp; omega), if_neg (by simp), if_pos (by simp; omega), if_pos]
    simp [isContinuation]
    omega

theorem utf16Units_unit (u : UInt16) : utf16Units u.toNat = [u] := by
  have hlt := u.toNat_lt
  rw [utf16Units, if_pos (by omega), UInt16.ofNat_toNat]

theorem utf16Units_pair {u v : UInt16} (hu : isHighSurrogate u = true) (hv : isLowSurrogate v = true) :
    utf16Units (Uri.pairCodePoint u v) = [u, v] := by
  rw [surrogate_iff.1] at hu
  rw [surrogate_iff.2] at hv
  have hhigh : 0xD800 + (Uri.pairCodePoint u v - 0x10000) / 0x400 = u.toNat := by
    unfold Uri.pairCodePoint
    omega
  have hlow : 0xDC00 + (Uri.pairCodePoint u v - 0x10000) % 0x400 = v.toNat := by
    unfold Uri.pairCodePoint
    omega
  rw [utf16Units, if_neg (by unfold Uri.pairCodePoint; omega), hhigh, hlow, UInt16.ofNat_toNat, UInt16.ofNat_toNat]

theorem utf8_cons {u : UInt16} (hh : isHighSurrogate u = false) (hl : isLowSurrogate u = false) (s : JsString) :
    Sha256.utf8 (u :: s) = Uri.utf8Bytes u.toNat ++ Sha256.utf8 s := by
  have hunit : Sha256.utf8Unit u = Uri.utf8Bytes u.toNat := by simp [Sha256.utf8Unit, hh, hl]
  cases s with
  | nil => simp [Sha256.utf8, hunit]
  | cons v rest => simp [Sha256.utf8, hh, hunit]

theorem utf8_pair {u v : UInt16} (hu : isHighSurrogate u = true) (hv : isLowSurrogate v = true) (s : JsString) :
    Sha256.utf8 (u :: v :: s) = Uri.utf8Bytes (Uri.pairCodePoint u v) ++ Sha256.utf8 s := by
  simp [Sha256.utf8, hu, hv]

/-- One more code point. -/
theorem decodeCodePoints_step {c fuel : Nat} {rest : List Nat} {s : JsString} (hmax : c < 0x110000)
    (hs : ¬ (0xD800 ≤ c ∧ c < 0xE000)) (hfuel : (Uri.utf8Bytes c ++ rest).length ≤ fuel)
    (ih : ∀ fuel, rest.length ≤ fuel → decodeCodePoints fuel rest = some s) :
    decodeCodePoints fuel (Uri.utf8Bytes c ++ rest) = some (utf16Units c ++ s) := by
  have hfirst := firstCodePoint_utf8Bytes hmax hs rest
  have hne := utf8Bytes_ne_nil c
  cases hbytes : Uri.utf8Bytes c with
  | nil => exact absurd hbytes hne
  | cons b bs =>
    rw [hbytes] at hfirst hfuel
    cases fuel with
    | zero => simp at hfuel
    | succ fuel =>
      have hrest : rest.length ≤ fuel := by
        simp at hfuel
        omega
      rw [List.cons_append] at hfirst ⊢
      rw [decodeCodePoints, hfirst, Option.bind_eq_bind, Option.bind_some]
      dsimp only
      rw [ih fuel hrest]
      rfl

theorem decodeCodePoints_utf8 {s : JsString} (h : WellFormed s) :
    ∀ fuel, (Sha256.utf8 s).length ≤ fuel → decodeCodePoints fuel (Sha256.utf8 s) = some s := by
  refine h.rec_on (P := fun s => ∀ fuel, (Sha256.utf8 s).length ≤ fuel → decodeCodePoints fuel (Sha256.utf8 s) = some s)
    ?_ ?_ ?_
  · intro fuel _
    cases fuel <;> rfl
  · intro u s hh hl _ ih fuel hfuel
    have hlt := u.toNat_lt
    rw [utf8_cons hh hl] at *
    rw [decodeCodePoints_step (by omega) ?_ hfuel ih, utf16Units_unit]
    · rfl
    · rw [Bool.eq_false_iff, Ne, surrogate_iff.1] at hh
      rw [Bool.eq_false_iff, Ne, surrogate_iff.2] at hl
      omega
  · intro u v s hu hv _ ih fuel hfuel
    have hu' := surrogate_iff.1.mp hu
    have hv' := surrogate_iff.2.mp hv
    rw [utf8_pair hu hv] at *
    rw [decodeCodePoints_step (by unfold Uri.pairCodePoint; omega) (by unfold Uri.pairCodePoint; omega) hfuel ih,
      utf16Units_pair hu hv]
    rfl

/-- Well-formed strings have different bytes. -/
theorem utf8_injective {s t : JsString} (hs : WellFormed s) (ht : WellFormed t) (h : Sha256.utf8 s = Sha256.utf8 t) :
    s = t := by
  have hdecoded := decodeCodePoints_utf8 hs _ le_rfl
  rw [h, decodeCodePoints_utf8 ht _ le_rfl] at hdecoded
  exact (Option.some.inj hdecoded).symm

/-- A text that starts with an ASCII character has no byte order mark. -/
theorem dropByteOrderMark_utf8 {u : UInt16} (hu : u.toNat < 0x80) (s : JsString) :
    dropByteOrderMark (Sha256.utf8 (u :: s)) = Sha256.utf8 (u :: s) := by
  have hh : isHighSurrogate u = false := by
    rw [Bool.eq_false_iff, Ne, surrogate_iff.1]
    omega
  have hl : isLowSurrogate u = false := by
    rw [Bool.eq_false_iff, Ne, surrogate_iff.2]
    omega
  rw [utf8_cons hh hl, Uri.utf8Bytes, if_pos hu, List.cons_append, List.nil_append]
  unfold dropByteOrderMark
  split
  next h =>
    simp only [List.cons.injEq] at h
    omega
  next => rfl

/-- A well-formed text is decoded as it was encoded. -/
theorem decodeUtf8_utf8 {u : UInt16} {s : JsString} (hu : u.toNat < 0x80) (h : WellFormed (u :: s)) :
    decodeUtf8 (Sha256.utf8 (u :: s)) = some (u :: s) := by
  rw [decodeUtf8, dropByteOrderMark_utf8 hu]
  exact decodeCodePoints_utf8 h _ le_rfl

/-! ## The text of a JSON value -/

theorem wellFormed_hexDigit {n : Nat} (h : n < 16) : (hexDigit n).toNat < 0xD800 := by
  interval_cases n <;> decide

theorem wellFormed_hex4 (n : Nat) : WellFormed (hex4 n) := by
  refine wellFormed_of_lt fun u hu => ?_
  have hmod (m : Nat) : m % 16 < 16 := Nat.mod_lt _ (by omega)
  simp only [hex4, List.mem_cons, List.not_mem_nil, or_false] at hu
  rcases hu with rfl | rfl | rfl | rfl <;> exact wellFormed_hexDigit (hmod _)

/-- A unit that stands alone is escaped when it is a surrogate. -/
theorem wellFormed_quoteUnit (u : UInt16) : WellFormed (quoteUnit u) := by
  unfold quoteUnit
  split_ifs with h1 h2 h3 h4 h5 h6 h7 h8
  iterate 7 exact wellFormed_ascii (by decide)
  · exact (wellFormed_ascii (by decide) : WellFormed (js "\\u")).append (wellFormed_hex4 _)
  · simp only [Bool.or_eq_true, decide_eq_true_eq, not_or, Bool.not_eq_true] at h8
    exact ⟨h8.1.2, h8.2⟩

theorem wellFormed_quoteUnits : ∀ s : JsString, WellFormed (quoteUnits s)
  | [] => trivial
  | [u] => wellFormed_quoteUnit u
  | u :: v :: rest => by
    rw [quoteUnits]
    split
    next h =>
      rw [Bool.and_eq_true] at h
      exact (wellFormed_quoteUnits rest).pair h.1 h.2
    next => exact (wellFormed_quoteUnit u).append (wellFormed_quoteUnits (v :: rest))

theorem wellFormed_quote (s : JsString) : WellFormed (quote s) := by
  have hq : WellFormed (js "\"") := wellFormed_ascii (by decide)
  exact (hq.append (wellFormed_quoteUnits s)).append hq

theorem wellFormed_decimal (n : Nat) : WellFormed (decimal n) := by
  refine wellFormed_of_lt fun u hu => ?_
  have hdigit := isDigit_iff.mp (List.all_eq_true.mp (all_isDigit_decimal n) u hu)
  omega

theorem wellFormed_joinComma : ∀ {texts : List JsString}, (∀ t ∈ texts, WellFormed t) → WellFormed (joinComma texts)
  | [], _ => trivial
  | [x], h => h x (by simp)
  | x :: y :: rest, h => by
    rw [joinComma]
    have hcomma : WellFormed (js ",") := wellFormed_ascii (by decide)
    exact ((h x (by simp)).append hcomma).append (wellFormed_joinComma fun t ht => h t (by simp [ht]))

mutual

theorem wellFormed_print : ∀ v : Json, WellFormed (print v)
  | .null => wellFormed_ascii (by decide)
  | .bool true => wellFormed_ascii (by decide)
  | .bool false => wellFormed_ascii (by decide)
  | .num (.ofNat n) => wellFormed_decimal n
  | .num (.negSucc n) =>
    (wellFormed_ascii (by decide) : WellFormed (js "-")).append (wellFormed_decimal (n + 1))
  | .str s => wellFormed_quote s
  | .arr items =>
    ((wellFormed_ascii (by decide) : WellFormed (js "[")).append (wellFormed_joinComma (wellFormed_printItems items))).append
      (wellFormed_ascii (by decide))
  | .obj fields =>
    ((wellFormed_ascii (by decide) : WellFormed (js "\x7b")).append
      (wellFormed_joinComma (wellFormed_printFields fields))).append (wellFormed_ascii (by decide))

theorem wellFormed_printItems : ∀ (items : List Json) (t : JsString), t ∈ printItems items → WellFormed t
  | [], _, h => by cases h
  | v :: rest, t, h => by
    rw [printItems, List.mem_cons] at h
    rcases h with rfl | h
    · exact wellFormed_print v
    · exact wellFormed_printItems rest t h

theorem wellFormed_printFields : ∀ (fields : List (JsString × Json)) (t : JsString), t ∈ printFields fields → WellFormed t
  | [], _, h => by cases h
  | (k, v) :: rest, t, h => by
    rw [printFields, List.mem_cons] at h
    rcases h with rfl | h
    · exact ((wellFormed_quote k).append (wellFormed_ascii (by decide))).append (wellFormed_print v)
    · exact wellFormed_printFields rest t h

end

/-- The text of an object, as bytes and back. -/
theorem decodeUtf8_print_obj (fields : List (JsString × Json)) :
    decodeUtf8 (Sha256.utf8 (print (.obj fields))) = some (print (.obj fields)) := by
  have hw := wellFormed_print (.obj fields)
  rw [print] at hw ⊢
  exact decodeUtf8_utf8 (by decide) hw

/-! ## Base64 -/

def base64Alphabet : JsString := js "ABCDEFGHIJKLMNOPQRSTUVWXYZabcdefghijklmnopqrstuvwxyz0123456789+/"

def base64Char (n : Nat) : UInt16 := base64Alphabet.getD n 0

/-- `Buffer.toString("base64")`. -/
def toBase64 : List Nat → JsString
  | [] => []
  | [a] => [base64Char (a / 4), base64Char (a % 4 * 16), 0x3D, 0x3D]
  | [a, b] => [base64Char (a / 4), base64Char (a % 4 * 16 + b / 16), base64Char (b % 16 * 4), 0x3D]
  | a :: b :: c :: rest =>
    base64Char (a / 4) :: base64Char (a % 4 * 16 + b / 16) :: base64Char (b % 16 * 4 + c / 64) ::
      base64Char (c % 64) :: toBase64 rest

/-- The value of a base64 character, of either alphabet. -/
def base64Value (u : UInt16) : Option Nat :=
  if u = 0x2D then some 62
  else if u = 0x5F then some 63
  else if u ∈ base64Alphabet then some (base64Alphabet.idxOf u)
  else none

/-- The bytes of the values, six bits each; what is left at the end is dropped. -/
def sextetBytes : List Nat → List Nat
  | a :: b :: c :: d :: rest =>
    (a * 4 + b / 16) :: (b % 16 * 16 + c / 4) :: (c % 4 * 64 + d) :: sextetBytes rest
  | [a, b, c] => [a * 4 + b / 16, b % 16 * 16 + c / 4]
  | [a, b] => [a * 4 + b / 16]
  | _ => []

/-- `Buffer.from(text, "base64")`: reads up to the padding and skips what is no base64 character. -/
def fromBase64 (text : JsString) : List Nat := sextetBytes ((text.takeWhile (· ≠ 0x3D)).filterMap base64Value)

theorem base64Value_base64Char {n : Nat} (h : n < 64) :
    base64Value (base64Char n) = some n ∧ base64Char n ≠ 0x3D := by
  have hsextets : ∀ n < 64, base64Value (base64Char n) = some n ∧ base64Char n ≠ 0x3D := by decide
  exact hsextets n h

theorem filterMap_base64_cons {n : Nat} (h : n < 64) (rest : JsString) :
    ((base64Char n :: rest).takeWhile (· ≠ 0x3D)).filterMap base64Value =
      n :: (rest.takeWhile (· ≠ 0x3D)).filterMap base64Value := by
  obtain ⟨hv, hne⟩ := base64Value_base64Char h
  rw [List.takeWhile_cons_of_pos (by simpa using hne), List.filterMap_cons_some hv]

theorem filterMap_base64_padding (rest : JsString) :
    ((0x3D :: rest).takeWhile (· ≠ (0x3D : UInt16))).filterMap base64Value = [] := by
  simp

/-- Bytes survive base64. -/
theorem fromBase64_toBase64 : ∀ {bytes : List Nat}, (∀ b ∈ bytes, b < 256) → fromBase64 (toBase64 bytes) = bytes
  | [], _ => rfl
  | [a], h => by
    have ha := h a (by simp)
    rw [toBase64, fromBase64, filterMap_base64_cons (by omega), filterMap_base64_cons (by omega),
      filterMap_base64_padding, sextetBytes]
    congr 1
    omega
  | [a, b], h => by
    have ha := h a (by simp)
    have hb := h b (by simp)
    rw [toBase64, fromBase64, filterMap_base64_cons (by omega), filterMap_base64_cons (by omega),
      filterMap_base64_cons (by omega), filterMap_base64_padding, sextetBytes]
    congr 1
    · omega
    · congr 1
      omega
  | a :: b :: c :: rest, h => by
    have ha := h a (by simp)
    have hb := h b (by simp)
    have hc := h c (by simp)
    have ih : fromBase64 (toBase64 rest) = rest := fromBase64_toBase64 fun x hx => h x (by simp [hx])
    rw [fromBase64] at ih
    rw [toBase64, fromBase64, filterMap_base64_cons (by omega), filterMap_base64_cons (by omega),
      filterMap_base64_cons (by omega), filterMap_base64_cons (by omega), sextetBytes, ih]
    congr 1
    · omega
    · congr 1
      · omega
      · congr 1
        omega

theorem utf8Bytes_lt {c : Nat} (h : c < 0x110000) : ∀ b ∈ Uri.utf8Bytes c, b < 256 := by
  unfold Uri.utf8Bytes
  split_ifs <;> simp <;> omega

theorem utf8_lt : ∀ (s : JsString), ∀ b ∈ Sha256.utf8 s, b < 256
  | [] => by simp [Sha256.utf8]
  | [u] => utf8Unit_lt u
  | u :: v :: rest => by
    rw [Sha256.utf8]
    split
    next h =>
      intro b hb
      rw [List.mem_append] at hb
      rcases hb with hb | hb
      · rw [Bool.and_eq_true, surrogate_iff.1, surrogate_iff.2] at h
        exact utf8Bytes_lt (by unfold Uri.pairCodePoint; omega) b hb
      · exact utf8_lt rest b hb
    next =>
      intro b hb
      rw [List.mem_append] at hb
      rcases hb with hb | hb
      · exact utf8Unit_lt u b hb
      · exact utf8_lt (v :: rest) b hb
where
  utf8Unit_lt (u : UInt16) : ∀ b ∈ Sha256.utf8Unit u, b < 256 := by
    have hlt := u.toNat_lt
    refine utf8Bytes_lt ?_
    split <;> omega

end TextCodec
