import RouteGuard.Domain.CanonicalHash
import RouteGuard.Lib.TextCodec

/-!
# The size of a canonical text

A text of plain characters is written as it is, and each of its characters is one byte.

* `Plain` : printable ASCII without quotes and backslashes;
* `Measured`, `MeasuredFields` : a canonical text is ASCII and not longer than a bound;
* `Measured.byteLength` : the bound in bytes.
-/

open JsString

namespace Json

/-- A printable ASCII character that is written without an escape. -/
def isPlain (u : UInt16) : Bool := 0x20 ≤ u && u < 0x80 && u ≠ 0x22 && u ≠ 0x5C

abbrev Plain (s : JsString) : Prop := s.all isPlain = true

def isAscii (u : UInt16) : Bool := u < 0x80

abbrev Ascii (s : JsString) : Prop := s.all isAscii = true

theorem isPlain_iff {u : UInt16} :
    isPlain u = true ↔ 0x20 ≤ u.toNat ∧ u.toNat < 0x80 ∧ u.toNat ≠ 0x22 ∧ u.toNat ≠ 0x5C := by
  simp only [isPlain, Bool.and_eq_true, decide_eq_true_eq, UInt16.le_iff_toNat_le, UInt16.lt_iff_toNat_lt, ne_eq,
    ← UInt16.toNat_inj, and_assoc]
  exact Iff.rfl

theorem isAscii_of_isPlain {u : UInt16} (h : isPlain u = true) : isAscii u = true := by
  have hlt := (isPlain_iff.mp h).2.1
  rw [isAscii, decide_eq_true_eq, UInt16.lt_iff_toNat_lt]
  exact hlt

theorem Plain.ascii {s : JsString} (h : Plain s) : Ascii s := by
  rw [Ascii, List.all_eq_true]
  exact fun u hu => isAscii_of_isPlain (List.all_eq_true.mp h u hu)

theorem no_surrogate_of_isAscii {u : UInt16} (h : isAscii u = true) :
    isHighSurrogate u = false ∧ isLowSurrogate u = false := by
  rw [isAscii, decide_eq_true_eq, UInt16.lt_iff_toNat_lt] at h
  have hlt : u.toNat < 0x80 := h
  simp only [isHighSurrogate, isLowSurrogate, Bool.and_eq_false_iff, decide_eq_false_iff_not, UInt16.le_iff_toNat_le]
  have hhigh : (0xD800 : UInt16).toNat = 0xD800 := rfl
  have hlow : (0xDC00 : UInt16).toNat = 0xDC00 := rfl
  exact ⟨.inl (by omega), .inl (by omega)⟩

/-- One byte for each character. -/
theorem length_utf8_of_ascii {s : JsString} (h : Ascii s) : (Sha256.utf8 s).length = s.length := by
  induction s with
  | nil => rfl
  | cons u s ih =>
    rw [Ascii, List.all_cons, Bool.and_eq_true] at h
    obtain ⟨hhigh, hlow⟩ := no_surrogate_of_isAscii h.1
    have hlt : u.toNat < 0x80 := by
      have h1 := h.1
      rw [isAscii, decide_eq_true_eq, UInt16.lt_iff_toNat_lt] at h1
      exact h1
    rw [TextCodec.utf8_cons hhigh hlow, List.length_append, ih h.2, Uri.utf8Bytes, if_pos hlt, List.length_singleton,
      List.length_cons, Nat.add_comm]

theorem quoteUnit_plain {u : UInt16} (h : isPlain u = true) : quoteUnit u = [u] := by
  obtain ⟨hle, -, hquote, hbackslash⟩ := isPlain_iff.mp h
  obtain ⟨hhigh, hlow⟩ := no_surrogate_of_isAscii (isAscii_of_isPlain h)
  have hne : ∀ v : UInt16, u.toNat ≠ v.toNat → u ≠ v := fun v hv heq => hv (by rw [heq])
  have hcontrol : ∀ v : UInt16, v.toNat < 0x20 → u ≠ v := fun v hv => hne v (by omega)
  have hnlt : ¬ u < 0x20 := by
    rw [UInt16.lt_iff_toNat_lt]
    have h20 : (0x20 : UInt16).toNat = 0x20 := rfl
    omega
  rw [quoteUnit, if_neg (hne 0x22 hquote), if_neg (hne 0x5C hbackslash), if_neg (hcontrol _ (by decide)),
    if_neg (hcontrol _ (by decide)), if_neg (hcontrol _ (by decide)), if_neg (hcontrol _ (by decide)),
    if_neg (hcontrol _ (by decide)), if_neg (by simp [hnlt, hhigh, hlow])]

theorem quoteUnits_plain {s : JsString} (h : Plain s) : quoteUnits s = s := by
  induction s with
  | nil => rfl
  | cons u s ih =>
    rw [Plain, List.all_cons, Bool.and_eq_true] at h
    have hhigh := (no_surrogate_of_isAscii (isAscii_of_isPlain h.1)).1
    cases s with
    | nil => exact quoteUnit_plain h.1
    | cons v rest => rw [quoteUnits, if_neg (by simp [hhigh]), quoteUnit_plain h.1, ih h.2, List.singleton_append]

theorem ascii_append {s t : JsString} : Ascii (s ++ t) ↔ Ascii s ∧ Ascii t := by
  rw [Ascii, List.all_append, Bool.and_eq_true]

/-! ## Bounds -/

/-- The canonical text is ASCII and has at most `n` characters. -/
structure Measured (v : Json) (n : Nat) : Prop where
  ascii : Ascii v.canonicalize
  length : v.canonicalize.length ≤ n

/-- What a field adds to the text of its object, with a comma. -/
def fieldText (f : JsString × JsString) : JsString := quote f.1 ++ js ":" ++ f.2

structure MeasuredFields (fields : List (JsString × Json)) (n : Nat) : Prop where
  ascii : ∀ f ∈ canonicalizeFields fields, Ascii (fieldText f)
  length : ((canonicalizeFields fields).map fun f => (fieldText f).length + 1).sum ≤ n

/-- The canonical text in bytes. -/
theorem Measured.byteLength {v : Json} {n : Nat} (h : Measured v n) : (Sha256.utf8 v.canonicalize).length ≤ n := by
  rw [length_utf8_of_ascii h.ascii]
  exact h.length

theorem Measured.mono {v : Json} {m n : Nat} (h : Measured v m) (hle : m ≤ n) : Measured v n :=
  ⟨h.ascii, h.length.trans hle⟩

theorem measured_str {s : JsString} {n : Nat} (h : Plain s) (hn : s.length ≤ n) : Measured (.str s) (n + 2) := by
  have htext : canonicalize (.str s) = 0x22 :: (s ++ [0x22]) := by
    rw [canonicalize, quote, quoteUnits_plain h]
    rfl
  constructor
  · rw [htext, Ascii, List.all_cons, List.all_append, Bool.and_eq_true, Bool.and_eq_true]
    exact ⟨rfl, h.ascii, rfl⟩
  · rw [htext, List.length_cons, List.length_append, List.length_singleton]
    omega

theorem plain_of_isDigit {s : JsString} (h : s.all isDigit = true) : Plain s := by
  rw [Plain, List.all_eq_true]
  intro u hu
  have hdigit := List.all_eq_true.mp h u hu
  simp only [isDigit, Bool.and_eq_true, decide_eq_true_eq, UInt16.le_iff_toNat_le] at hdigit
  have hlow : (0x30 : UInt16).toNat = 0x30 := rfl
  have hhigh : (0x39 : UInt16).toNat = 0x39 := rfl
  refine isPlain_iff.mpr ⟨?_, ?_, ?_, ?_⟩ <;> omega

theorem measured_num {k : Int} {n : Nat} (hn : 0 < n) (h0 : 0 ≤ k) (h : k < 10 ^ n) : Measured (.num k) n := by
  obtain ⟨m, rfl⟩ := Int.eq_ofNat_of_zero_le h0
  have hm : m < 10 ^ n := by exact_mod_cast h
  exact ⟨(plain_of_isDigit (all_isDigit_decimal m)).ascii, (length_decimal_le_iff hn).mpr hm⟩

theorem measuredFields_nil : MeasuredFields [] 0 := by
  constructor
  · intro f hf
    exact absurd hf List.not_mem_nil
  · exact le_refl 0

theorem measuredFields_cons {k : JsString} {v : Json} {rest : List (JsString × Json)} {l m n : Nat} (hk : Plain k)
    (hl : k.length = l) (hv : Measured v m) (hrest : MeasuredFields rest n) :
    MeasuredFields ((k, v) :: rest) (l + m + n + 4) := by
  have htext : fieldText (k, v.canonicalize) = 0x22 :: (k ++ 0x22 :: 0x3A :: v.canonicalize) := by
    rw [fieldText, quote, quoteUnits_plain hk]
    show 0x22 :: ((k ++ [0x22]) ++ [0x3A] ++ v.canonicalize) = _
    simp only [List.append_assoc, List.cons_append, List.nil_append]
  constructor
  · intro f hf
    rcases List.mem_cons.mp hf with rfl | hf
    · rw [htext, Ascii, List.all_cons, List.all_append, List.all_cons, List.all_cons]
      simp only [Bool.and_eq_true]
      exact ⟨rfl, hk.ascii, rfl, rfl, hv.ascii⟩
    · exact hrest.ascii f hf
  · have hvalue := hv.length
    have htail := hrest.length
    rw [canonicalizeFields, List.map_cons, List.sum_cons, htext]
    simp only [List.length_cons, List.length_append]
    omega

theorem length_joinComma_le (texts : List JsString) :
    (joinComma texts).length ≤ (texts.map fun t => t.length + 1).sum := by
  induction texts using joinComma.induct with
  | case1 => exact le_refl 0
  | case2 x => simp [joinComma]
  | case3 x y rest ih =>
    have hcomma : (js ",").length = 1 := by decide
    rw [joinComma, List.length_append, List.length_append, List.map_cons, List.sum_cons, hcomma]
    omega

theorem ascii_joinComma {texts : List JsString} (h : ∀ t ∈ texts, Ascii t) : Ascii (joinComma texts) := by
  induction texts using joinComma.induct with
  | case1 => rfl
  | case2 x => exact h x List.mem_cons_self
  | case3 x y rest ih =>
    rw [joinComma, ascii_append, ascii_append]
    exact ⟨⟨h x List.mem_cons_self, by decide⟩, ih fun t ht => h t (List.mem_cons_of_mem _ ht)⟩

theorem measured_obj {fields : List (JsString × Json)} {n : Nat} (h : MeasuredFields fields n) :
    Measured (.obj fields) (n + 2) := by
  have htext : canonicalize (.obj fields) =
      js "\x7b" ++ joinComma ((sortByKey (canonicalizeFields fields)).map fieldText) ++ js "\x7d" := rfl
  have hperm := perm_sortByKey (canonicalizeFields fields)
  constructor
  · rw [htext, ascii_append, ascii_append]
    refine ⟨⟨by decide, ascii_joinComma ?_⟩, by decide⟩
    intro t ht
    obtain ⟨f, hf, rfl⟩ := List.mem_map.mp ht
    exact h.ascii f (hperm.mem_iff.mp hf)
  · have hjoin := length_joinComma_le ((sortByKey (canonicalizeFields fields)).map fieldText)
    rw [List.map_map, (hperm.map _).sum_eq] at hjoin
    have hsum := h.length
    have hopen : (js "\x7b").length = 1 := by decide
    have hclose : (js "\x7d").length = 1 := by decide
    rw [htext, List.length_append, List.length_append, hopen, hclose]
    show 1 + _ + 1 ≤ n + 2
    have hle : (joinComma ((sortByKey (canonicalizeFields fields)).map fieldText)).length ≤ n := hjoin.trans hsum
    omega

end Json
